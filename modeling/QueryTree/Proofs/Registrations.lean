import QueryTree.Proofs.Wrappers

/-!
# Registering types

In a consistent catalog, array types and element types are two sides of one relation: a type
is the array type of another exactly if the other is its element type, no type is on both
sides, and the two types of a pair agree on collations.  The built-in table is consistent.
Registering a scalar type together with its array type, under numbers that nothing is known
by yet, adds one pair to the relation and touches no other type, so the catalog stays
consistent however many types are registered.
-/

namespace QueryTree

/-!
# Consistent catalogs
-/

namespace Catalog

/-- Array types and element types belong together in pairs. -/
structure Consistent (catalog : Catalog) : Prop where
  paired : forall element array : Oid,
    catalog.arrayType element = some array <-> catalog.elementType array = some element
  apart : forall type : Oid, catalog.arrayType type = none ∨ catalog.elementType type = none
  collatable : forall element array : Oid, catalog.elementType array = some element ->
    catalog.isCollatable array = catalog.isCollatable element

/-- An array type has no array type, so it is promoted to itself. -/
theorem Consistent.promotesOnce {catalog : Catalog} (hconsistent : catalog.Consistent) :
    catalog.PromotesOnce := by
  have hitself : forall element array : Oid, catalog.elementType array = some element ->
      catalog.promotedArrayType array = some array := by
    intro element array helement
    have hnone : catalog.arrayType array = none := by
      apply (hconsistent.apart array).resolve_right
      rw [helement]
      nofun
    rw [promotedArrayType, hnone, helement]
    rfl
  intro type array hpromoted
  rw [promotedArrayType] at hpromoted
  cases harray : catalog.arrayType type with
  | some promoted =>
      rw [harray] at hpromoted
      cases hpromoted
      exact hitself type array ((hconsistent.paired type array).mp harray)
  | none =>
      rw [harray] at hpromoted
      cases helement : catalog.elementType type with
      | none =>
          rw [helement] at hpromoted
          cases hpromoted
      | some element =>
          rw [helement] at hpromoted
          cases hpromoted
          exact hitself element type helement

theorem arrayType_eq_none {catalog : Catalog} {type : Oid}
    (hunknown : catalog.typeInfo type = none) : catalog.arrayType type = none := by
  rw [arrayType, hunknown]
  rfl

theorem elementType_eq_none {catalog : Catalog} {type : Oid}
    (hunknown : catalog.typeInfo type = none) : catalog.elementType type = none := by
  rw [elementType, hunknown]
  rfl

end Catalog

/-!
# The built-in table
-/

namespace BuiltinType

theorem ofOid?_eq_some_iff {oid : Oid} {type : BuiltinType} :
    ofOid? oid = some type <-> type.toOid = oid := by
  constructor
  · intro hfound
    simpa using List.find?_some hfound
  · rintro rfl
    exact ofOid?_toOid type

/-- Looking an element type up backwards finds the one type whose arrays these are. -/
theorem elementType?_eq_some_iff {element array : BuiltinType} :
    array.elementType? = some element <-> element.arrayType? = some array := by
  constructor
  · intro hfound
    simpa using List.find?_some hfound
  · intro harray
    cases element <;> cases harray <;> decide

theorem arrayType?_eq_none_or (type : BuiltinType) :
    type.arrayType? = none ∨ type.elementType? = none := by
  cases type <;> decide

theorem isCollatable_of_arrayType? {element array : BuiltinType}
    (harray : element.arrayType? = some array) : array.isCollatable = element.isCollatable := by
  cases element <;> cases harray <;> rfl

end BuiltinType

namespace Catalog

theorem typeInfo_builtin (type : BuiltinType) :
    Catalog.builtin.typeInfo type.toOid = some type.info := by
  show (BuiltinType.ofOid? type.toOid).map BuiltinType.info = _
  rw [BuiltinType.ofOid?_toOid]
  rfl

theorem exists_of_typeInfo_builtin {oid : Oid} {info : TypeInfo}
    (hinfo : Catalog.builtin.typeInfo oid = some info) :
    exists type : BuiltinType, type.toOid = oid ∧ type.info = info := by
  rcases Option.map_eq_some_iff.mp hinfo with ⟨type, htype, hinfo⟩
  exact ⟨type, BuiltinType.ofOid?_eq_some_iff.mp htype, hinfo⟩

/-- What the table says about the numbers of types, it says about the types. -/
theorem bind_typeInfo_builtin_eq_some_iff {field : TypeInfo -> Option Oid}
    {related : BuiltinType -> Option BuiltinType}
    (hfield : forall type : BuiltinType,
      field type.info = (related type).map BuiltinType.toOid) {oid other : Oid} :
    (Catalog.builtin.typeInfo oid).bind field = some other <->
      exists type otherType : BuiltinType,
        type.toOid = oid ∧ otherType.toOid = other ∧ related type = some otherType := by
  constructor
  · intro hbind
    rcases Option.bind_eq_some_iff.mp hbind with ⟨info, hinfo, hother⟩
    rcases exists_of_typeInfo_builtin hinfo with ⟨type, htype, rfl⟩
    rw [hfield] at hother
    rcases Option.map_eq_some_iff.mp hother with ⟨otherType, hrelated, hnumber⟩
    exact ⟨type, otherType, htype, hnumber, hrelated⟩
  · rintro ⟨type, otherType, rfl, rfl, hrelated⟩
    rw [typeInfo_builtin, Option.bind_some, hfield, hrelated]
    rfl

theorem consistent_builtin : Catalog.builtin.Consistent where
  paired element array := by
    rw [arrayType, elementType, bind_typeInfo_builtin_eq_some_iff fun _ => rfl,
      bind_typeInfo_builtin_eq_some_iff fun _ => rfl]
    constructor
    · rintro ⟨scalar, list, hscalar, hlist, harray⟩
      exact ⟨list, scalar, hlist, hscalar, BuiltinType.elementType?_eq_some_iff.mpr harray⟩
    · rintro ⟨list, scalar, hlist, hscalar, helement⟩
      exact ⟨scalar, list, hscalar, hlist, BuiltinType.elementType?_eq_some_iff.mp helement⟩
  apart oid := by
    cases hinfo : Catalog.builtin.typeInfo oid with
    | none => exact Or.inl (arrayType_eq_none hinfo)
    | some info =>
        rcases exists_of_typeInfo_builtin hinfo with ⟨type, rfl, rfl⟩
        rw [arrayType, elementType, hinfo]
        rcases type.arrayType?_eq_none_or with hnone | hnone
        · left
          show type.arrayType?.map BuiltinType.toOid = none
          rw [hnone]
          rfl
        · right
          show type.elementType?.map BuiltinType.toOid = none
          rw [hnone]
          rfl
  collatable element array helement := by
    rw [elementType, bind_typeInfo_builtin_eq_some_iff fun _ => rfl] at helement
    rcases helement with ⟨list, scalar, rfl, rfl, helement⟩
    rw [isCollatable, isCollatable, typeInfo_builtin, typeInfo_builtin]
    exact BuiltinType.isCollatable_of_arrayType? (BuiltinType.elementType?_eq_some_iff.mp helement)

end Catalog

/-!
# One entry
-/

namespace Registry

variable (registry : Registry) (info : TypeInfo)

theorem typeInfo_register_self (hvalid : info.oid ≠ Oid.invalid) :
    (registry.register info).catalog.typeInfo info.oid = some info := by
  show (if info.oid = Oid.invalid then none else _) = _
  rw [if_neg hvalid]
  exact List.find?_cons_of_pos (beq_self_eq_true info.oid)

/-- Only the number that is registered has another answer. -/
theorem typeInfo_register_of_ne {oid : Oid} (hother : oid ≠ info.oid) :
    (registry.register info).catalog.typeInfo oid = registry.catalog.typeInfo oid := by
  have hfound : (registry.register info).entries.find? (fun entry => entry.oid == oid) =
      registry.entries.find? (fun entry => entry.oid == oid) := by
    rw [register, List.find?_cons_of_neg (by simpa using hother.symm), List.find?_filter]
    congr 1
    funext entry
    by_cases heq : entry.oid = oid
    · simp [heq, hother]
    · simp [heq]
  show (if oid = Oid.invalid then none else _) = if oid = Oid.invalid then none else _
  rw [hfound]

theorem size_register (hvalid : info.oid ≠ Oid.invalid)
    (hunknown : registry.catalog.typeInfo info.oid = none) :
    (registry.register info).size = registry.size + 1 := by
  have hnone : registry.entries.find? (fun entry => entry.oid == info.oid) = none := by
    rw [← hunknown]
    exact (if_neg hvalid).symm
  have hkept : registry.entries.filter (fun entry => entry.oid != info.oid) = registry.entries := by
    rw [List.filter_eq_self]
    intro entry hentry
    simpa using List.find?_eq_none.mp hnone entry hentry
  rw [size, register, List.length_cons, hkept]
  rfl

/-- To begin with, a registry knows the built-in types. -/
theorem typeInfo_initial (oid : Oid) :
    Registry.initial.catalog.typeInfo oid = Catalog.builtin.typeInfo oid := by
  show (if oid = Oid.invalid then none else _) = (BuiltinType.all.find? _).map BuiltinType.info
  rw [initial, List.find?_map]
  by_cases hvalid : oid = Oid.invalid
  · rw [if_pos hvalid, hvalid]
    decide
  · rw [if_neg hvalid]
    rfl

end Registry

/-!
# A scalar type with its array type
-/

/-- A scalar type that is to be registered, with the number of its array type. -/
structure Registration where
  oid : Oid
  name : String
  array : Oid
  collatable : Bool
deriving DecidableEq, Repr

namespace Registration

variable (registration : Registration)

/-- The numbers that a registration takes. -/
def numbers : List Oid :=
  [registration.oid, registration.array]

def scalarInfo : TypeInfo where
  oid := registration.oid
  name := registration.name
  elementType := none
  arrayType := some registration.array
  collatable := registration.collatable

def arrayInfo : TypeInfo where
  oid := registration.array
  name := "_" ++ registration.name
  elementType := some registration.oid
  arrayType := none
  collatable := registration.collatable

/-- The registry with both types added. -/
def addTo (registry : Registry) : Registry :=
  registry.registerWithArray registration.oid registration.name registration.array
    registration.collatable

/-- The numbers are two, and nothing is known by them yet. -/
structure Unused (registry : Registry) : Prop where
  distinct : registration.oid ≠ registration.array
  valid : forall oid : Oid, oid ∈ registration.numbers -> oid ≠ Oid.invalid
  unknown : forall oid : Oid, oid ∈ registration.numbers -> registry.catalog.typeInfo oid = none

variable {registration} {registry : Registry}

theorem typeInfo_addTo_of_notMem {oid : Oid} (hother : oid ∉ registration.numbers) :
    (registration.addTo registry).catalog.typeInfo oid = registry.catalog.typeInfo oid := by
  simp only [numbers, List.mem_cons, List.not_mem_nil, or_false, not_or] at hother
  rw [addTo, Registry.registerWithArray, Registry.typeInfo_register_of_ne _ _ hother.right,
    Registry.typeInfo_register_of_ne _ _ hother.left]

namespace Unused

variable (hunused : registration.Unused registry)

include hunused

theorem typeInfo_oid :
    (registration.addTo registry).catalog.typeInfo registration.oid =
      some registration.scalarInfo := by
  have hvalid := hunused.valid registration.oid List.mem_cons_self
  rw [addTo, Registry.registerWithArray, Registry.typeInfo_register_of_ne _ _ hunused.distinct]
  exact registry.typeInfo_register_self registration.scalarInfo hvalid

theorem typeInfo_array :
    (registration.addTo registry).catalog.typeInfo registration.array =
      some registration.arrayInfo := by
  have hvalid := hunused.valid registration.array (List.mem_cons_of_mem _ List.mem_cons_self)
  exact Registry.typeInfo_register_self _ registration.arrayInfo hvalid

theorem size_addTo : (registration.addTo registry).size = registry.size + 2 := by
  have hmem : registration.array ∈ registration.numbers :=
    List.mem_cons_of_mem _ List.mem_cons_self
  have hunknown : (registry.register registration.scalarInfo).catalog.typeInfo
      registration.array = none := by
    rw [Registry.typeInfo_register_of_ne _ _ hunused.distinct.symm]
    exact hunused.unknown registration.array hmem
  have hboth := Registry.size_register _ registration.arrayInfo
    (hunused.valid registration.array hmem) hunknown
  have hscalar := registry.size_register registration.scalarInfo
    (hunused.valid registration.oid List.mem_cons_self)
    (hunused.unknown registration.oid List.mem_cons_self)
  rw [hscalar] at hboth
  exact hboth

/-- What is known of any number: what was known, or that it is one of the pair. -/
theorem bind_typeInfo_addTo_eq_some_iff (field : TypeInfo -> Option Oid) {oid other : Oid} :
    ((registration.addTo registry).catalog.typeInfo oid).bind field = some other <->
      oid = registration.oid ∧ field registration.scalarInfo = some other ∨
        oid = registration.array ∧ field registration.arrayInfo = some other ∨
        (registry.catalog.typeInfo oid).bind field = some other := by
  by_cases hmem : oid ∈ registration.numbers
  · have hunknown := hunused.unknown oid hmem
    have hdistinct := hunused.distinct
    simp only [numbers, List.mem_cons, List.not_mem_nil, or_false] at hmem
    rcases hmem with rfl | rfl
    · simp [hunused.typeInfo_oid, hunknown, hdistinct]
    · simp [hunused.typeInfo_array, hunknown, hdistinct.symm]
  · rw [typeInfo_addTo_of_notMem hmem]
    simp only [numbers, List.mem_cons, List.not_mem_nil, or_false, not_or] at hmem
    simp [hmem.left, hmem.right]

theorem arrayType_addTo_eq_some_iff {element array : Oid} :
    (registration.addTo registry).catalog.arrayType element = some array <->
      element = registration.oid ∧ array = registration.array ∨
        registry.catalog.arrayType element = some array := by
  rw [Catalog.arrayType, hunused.bind_typeInfo_addTo_eq_some_iff]
  simp [scalarInfo, arrayInfo, Catalog.arrayType, eq_comm]

theorem elementType_addTo_eq_some_iff {element array : Oid} :
    (registration.addTo registry).catalog.elementType array = some element <->
      array = registration.array ∧ element = registration.oid ∨
        registry.catalog.elementType array = some element := by
  rw [Catalog.elementType, hunused.bind_typeInfo_addTo_eq_some_iff]
  simp [scalarInfo, arrayInfo, Catalog.elementType, eq_comm]

theorem notMem_numbers_of_known {oid : Oid} (hknown : registry.catalog.typeInfo oid ≠ none) :
    oid ∉ registration.numbers := by
  intro hmem
  exact hknown (hunused.unknown oid hmem)

theorem consistent_addTo (hconsistent : registry.catalog.Consistent) :
    (registration.addTo registry).catalog.Consistent where
  paired element array := by
    rw [hunused.arrayType_addTo_eq_some_iff, hunused.elementType_addTo_eq_some_iff,
      hconsistent.paired element array]
    exact or_congr_left and_comm
  apart oid := by
    by_cases hmem : oid ∈ registration.numbers
    · simp only [numbers, List.mem_cons, List.not_mem_nil, or_false] at hmem
      rcases hmem with rfl | rfl
      · right
        rw [Catalog.elementType, hunused.typeInfo_oid]
        rfl
      · left
        rw [Catalog.arrayType, hunused.typeInfo_array]
        rfl
    · rw [Catalog.arrayType, Catalog.elementType, typeInfo_addTo_of_notMem hmem]
      exact hconsistent.apart oid
  collatable element array helement := by
    rw [Catalog.isCollatable, Catalog.isCollatable]
    rcases hunused.elementType_addTo_eq_some_iff.mp helement with ⟨rfl, rfl⟩ | hbefore
    · rw [hunused.typeInfo_array, hunused.typeInfo_oid]
      rfl
    · -- both types of an earlier pair are known, so neither number is new
      have harray : registry.catalog.typeInfo array ≠ none := by
        intro hunknown
        rw [Catalog.elementType_eq_none hunknown] at hbefore
        cases hbefore
      have hscalar : registry.catalog.typeInfo element ≠ none := by
        intro hunknown
        rw [← hconsistent.paired element array, Catalog.arrayType_eq_none hunknown] at hbefore
        cases hbefore
      rw [typeInfo_addTo_of_notMem (hunused.notMem_numbers_of_known harray),
        typeInfo_addTo_of_notMem (hunused.notMem_numbers_of_known hscalar)]
      exact hconsistent.collatable element array hbefore

end Unused

end Registration

/-!
# Many registrations
-/

/-- The registry with types added one after the other. -/
def Registry.addAll (registry : Registry) (registrations : List Registration) : Registry :=
  registrations.foldl (fun registry registration => registration.addTo registry) registry

/-- The numbers are all different, and nothing is known by any of them yet. -/
structure AllUnused (registry : Registry) (registrations : List Registration) : Prop where
  distinct : (registrations.flatMap Registration.numbers).Nodup
  valid : forall oid : Oid, oid ∈ registrations.flatMap Registration.numbers -> oid ≠ Oid.invalid
  unknown : forall oid : Oid, oid ∈ registrations.flatMap Registration.numbers ->
    registry.catalog.typeInfo oid = none

namespace AllUnused

variable {registry : Registry} {first : Registration} {rest : List Registration}

theorem head (hunused : AllUnused registry (first :: rest)) : first.Unused registry where
  distinct := by
    have hdistinct := hunused.distinct
    rw [List.flatMap_cons, Registration.numbers, List.nodup_append] at hdistinct
    simpa using hdistinct.left
  valid oid hmem := hunused.valid oid (List.mem_append_left _ hmem)
  unknown oid hmem := hunused.unknown oid (List.mem_append_left _ hmem)

/-- The first registration takes none of the numbers that the others need. -/
theorem tail (hunused : AllUnused registry (first :: rest)) :
    AllUnused (first.addTo registry) rest := by
  have hdistinct := hunused.distinct
  rw [List.flatMap_cons, List.nodup_append] at hdistinct
  rcases hdistinct with ⟨_, hrest, hapart⟩
  refine ⟨hrest, fun oid hmem => hunused.valid oid (List.mem_append_right _ hmem), ?_⟩
  intro oid hmem
  have hother : oid ∉ first.numbers := by
    intro hfirst
    exact hapart oid hfirst oid hmem rfl
  rw [Registration.typeInfo_addTo_of_notMem hother]
  exact hunused.unknown oid (List.mem_append_right _ hmem)

theorem of_append {earlier later : List Registration}
    (hunused : AllUnused registry (earlier ++ later)) :
    AllUnused (registry.addAll earlier) later := by
  induction earlier generalizing registry with
  | nil => exact hunused
  | cons first rest ih => exact ih hunused.tail

variable {registrations : List Registration} (hunused : AllUnused registry registrations)

include hunused

theorem consistent_addAll (hconsistent : registry.catalog.Consistent) :
    (registry.addAll registrations).catalog.Consistent := by
  induction registrations generalizing registry with
  | nil => exact hconsistent
  | cons first rest ih => exact ih hunused.tail (hunused.head.consistent_addTo hconsistent)

theorem size_addAll :
    (registry.addAll registrations).size = registry.size + 2 * registrations.length := by
  induction registrations generalizing registry with
  | nil => rfl
  | cons first rest ih =>
      have hrest := ih hunused.tail
      rw [hunused.head.size_addTo] at hrest
      rw [List.length_cons, Nat.mul_succ, Nat.add_comm (2 * rest.length), ← Nat.add_assoc]
      exact hrest

/-- What is known stays known. -/
theorem typeInfo_addAll_of_known {oid : Oid} {info : TypeInfo}
    (hknown : registry.catalog.typeInfo oid = some info) :
    (registry.addAll registrations).catalog.typeInfo oid = some info := by
  induction registrations generalizing registry with
  | nil => exact hknown
  | cons first rest ih =>
      apply ih hunused.tail
      rw [Registration.typeInfo_addTo_of_notMem, hknown]
      apply hunused.head.notMem_numbers_of_known
      rw [hknown]
      nofun

theorem typeInfo_addAll_of_mem {registration : Registration}
    (hmem : registration ∈ registrations) :
    (registry.addAll registrations).catalog.typeInfo registration.oid =
        some registration.scalarInfo ∧
      (registry.addAll registrations).catalog.typeInfo registration.array =
        some registration.arrayInfo := by
  induction registrations generalizing registry with
  | nil => cases hmem
  | cons first rest ih =>
      rcases List.mem_cons.mp hmem with rfl | hrest
      · exact ⟨hunused.tail.typeInfo_addAll_of_known hunused.head.typeInfo_oid,
          hunused.tail.typeInfo_addAll_of_known hunused.head.typeInfo_array⟩
      · exact ih hunused.tail hrest

end AllUnused

/-- Registrations under numbers that are all different, not zero and not built-in leave the
catalog consistent: array types and element types belong together in pairs, and an array
type is promoted to itself.  Built-in types and earlier registrations answer as they did,
every registration answers with what was registered, and each adds two types. -/
theorem addAll_keeps_catalog_consistent (registrations : List Registration)
    (hdistinct : (registrations.flatMap Registration.numbers).Nodup)
    (hnew : forall oid : Oid, oid ∈ registrations.flatMap Registration.numbers ->
      oid ≠ Oid.invalid ∧ BuiltinType.ofOid? oid = none) :
    (Registry.initial.addAll registrations).catalog.Consistent ∧
      (Registry.initial.addAll registrations).catalog.PromotesOnce ∧
      (forall type : BuiltinType,
        (Registry.initial.addAll registrations).catalog.typeInfo type.toOid = some type.info) ∧
      (forall (earlier later : List Registration) (oid : Oid) (info : TypeInfo),
        registrations = earlier ++ later ->
        (Registry.initial.addAll earlier).catalog.typeInfo oid = some info ->
        (Registry.initial.addAll registrations).catalog.typeInfo oid = some info) ∧
      (forall registration : Registration, registration ∈ registrations ->
        (Registry.initial.addAll registrations).catalog.typeInfo registration.oid =
            some registration.scalarInfo ∧
          (Registry.initial.addAll registrations).catalog.typeInfo registration.array =
            some registration.arrayInfo) ∧
      (Registry.initial.addAll registrations).size =
        Registry.initial.size + 2 * registrations.length := by
  have hcatalog : Registry.initial.catalog = Catalog.builtin :=
    congrArg Catalog.mk (funext Registry.typeInfo_initial)
  have hunused : AllUnused Registry.initial registrations := by
    refine ⟨hdistinct, fun oid hmem => (hnew oid hmem).left, ?_⟩
    intro oid hmem
    rw [Registry.typeInfo_initial]
    exact Option.map_eq_none_iff.mpr (hnew oid hmem).right
  have hconsistent : (Registry.initial.addAll registrations).catalog.Consistent := by
    apply hunused.consistent_addAll
    rw [hcatalog]
    exact Catalog.consistent_builtin
  refine ⟨hconsistent, hconsistent.promotesOnce, ?_, ?_, ?_, hunused.size_addAll⟩
  · intro type
    apply hunused.typeInfo_addAll_of_known
    rw [Registry.typeInfo_initial, Catalog.typeInfo_builtin]
  · rintro earlier later oid info rfl hknown
    rw [Registry.addAll, List.foldl_append]
    exact hunused.of_append.typeInfo_addAll_of_known hknown
  · intro registration hmem
    exact hunused.typeInfo_addAll_of_mem hmem

/-- An enumeration, and a text type with a collation. -/
def moodAndLabel : List Registration :=
  [{ oid := 90001, name := "mood", array := 90002, collatable := false },
    { oid := 90003, name := "label", array := 90004, collatable := true }]

/-- The arrays of labels are collatable as labels are, and moods are known as before. -/
theorem addAll_keeps_catalog_consistent_moodAndLabel :
    (moodAndLabel.flatMap Registration.numbers).Nodup ∧
      (Registry.initial.addAll moodAndLabel).catalog.arrayType 90003 = some 90004 ∧
      (Registry.initial.addAll moodAndLabel).catalog.elementType 90004 = some 90003 ∧
      (Registry.initial.addAll moodAndLabel).catalog.isCollatable 90004 = true ∧
      (Registry.initial.addAll moodAndLabel).catalog.typeInfo 90002 =
        some { oid := 90002, name := "_mood", elementType := some 90001, arrayType := none,
               collatable := false } := by
  have hdistinct : (moodAndLabel.flatMap Registration.numbers).Nodup := by decide
  have hnew : forall oid : Oid, oid ∈ moodAndLabel.flatMap Registration.numbers ->
      oid ≠ Oid.invalid ∧ BuiltinType.ofOid? oid = none := by
    intro oid hmem
    have hnumber : oid = 90001 ∨ oid = 90002 ∨ oid = 90003 ∨ oid = 90004 := by
      simpa [moodAndLabel, Registration.numbers] using hmem
    rcases hnumber with rfl | rfl | rfl | rfl <;> decide
  rcases addAll_keeps_catalog_consistent moodAndLabel hdistinct hnew with
    ⟨hconsistent, _, _, _, hregistered, _⟩
  rcases hregistered { oid := 90001, name := "mood", array := 90002, collatable := false }
    List.mem_cons_self with ⟨_, hmoods⟩
  rcases hregistered { oid := 90003, name := "label", array := 90004, collatable := true }
    (List.mem_cons_of_mem _ List.mem_cons_self) with ⟨hlabel, hlabels⟩
  have harray : (Registry.initial.addAll moodAndLabel).catalog.arrayType 90003 = some 90004 := by
    rw [Catalog.arrayType, hlabel]
    rfl
  have helement := (hconsistent.paired 90003 90004).mp harray
  refine ⟨hdistinct, harray, helement, ?_, ?_⟩
  · rw [hconsistent.collatable 90003 90004 helement, Catalog.isCollatable, hlabel]
    rfl
  · exact hmoods

end QueryTree
