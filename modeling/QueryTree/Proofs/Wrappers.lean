import QueryTree.Proofs.Answers

/-!
# Stacks of wrappers

A named argument, an inference element, a `COLLATE` and a sub-select pass on the attributes
of the expression inside: its type modifier all of them, its collation all but `COLLATE`,
its type all but the array of a sub-select, which promotes it.  Each takes one level, so a
stack of them is seen through down to its bottom as long as there are levels, in whatever
order they are stacked.
-/

namespace QueryTree

open Traversal Lookup

/-- A sub-select but for the expression of its first output column. -/
structure Subselect where
  link : SubLink
  testExpr : Option Node
  /-- The query, with the output columns that follow the first one. -/
  query : Query
  column : TargetEntry

namespace Subselect

/-- The sub-select of an expression, as a link of the given type. -/
def around (subselect : Subselect) (linkType : SubLinkType) (expr : Node) : Node :=
  .subLink { subselect.link with linkType } subselect.testExpr
    (.query
      { subselect.query with
        targetList := .targetEntry subselect.column expr :: subselect.query.targetList })

end Subselect

/-- One layer around an expression. -/
inductive Wrapper where
  | namedArg (data : NamedArgExpr)
  | inference (data : InferenceElem)
  | collate (data : CollateExpr)
  /-- The value of a sub-select. -/
  | value (subselect : Subselect)
  /-- The array of the values of a sub-select. -/
  | array (subselect : Subselect)

namespace Wrapper

def wrap : Wrapper -> Node -> Node
  | .namedArg data, expr => .namedArgExpr data expr
  | .inference data, expr => .inferenceElem data expr
  | .collate data, expr => .collateExpr data expr
  | .value subselect, expr => subselect.around .expr expr
  | .array subselect, expr => subselect.around .array expr

/-- The collation that a wrapper puts in place of that of the expression. -/
def collation? : Wrapper -> Option Oid
  | .collate data => some data.collation
  | _ => none

def isArray : Wrapper -> Bool
  | .array _ => true
  | _ => false

end Wrapper

/-- An expression in a stack of wrappers, the outermost one first. -/
def Node.within (expr : Node) (stack : List Wrapper) : Node :=
  stack.foldr Wrapper.wrap expr

namespace Catalog

/-- The type of arrays over a type, where there is one. -/
def arrayOver (catalog : Catalog) (type : Oid) : Except TreeError Oid :=
  match catalog.promotedArrayType type with
  | some array => .ok array
  | none => .error (.missingArrayType type)

/-- An array type that a type is promoted to is promoted to itself. -/
def PromotesOnce (catalog : Catalog) : Prop :=
  forall type array : Oid, catalog.promotedArrayType type = some array ->
    catalog.promotedArrayType array = some array

theorem PromotesOnce.arrayOver_bind {catalog : Catalog} (honce : catalog.PromotesOnce)
    (type : Oid) : (catalog.arrayOver type).bind catalog.arrayOver = catalog.arrayOver type := by
  unfold arrayOver
  cases hpromoted : catalog.promotedArrayType type with
  | none => rfl
  | some array =>
      simp only [Except.bind]
      rw [honce type array hpromoted]

theorem promotesOnce_builtin : Catalog.builtin.PromotesOnce := by
  intro type array hpromoted
  have htable : forall builtin : BuiltinType,
      (Catalog.builtin.promotedArrayType builtin.toOid).bind Catalog.builtin.promotedArrayType =
        Catalog.builtin.promotedArrayType builtin.toOid := by
    intro builtin
    cases builtin <;> decide
  cases hknown : BuiltinType.ofOid? type with
  | none => simp [promotedArrayType, arrayType, elementType, Catalog.builtin, hknown] at hpromoted
  | some builtin =>
      have htype : builtin.toOid = type := by simpa using List.find?_some hknown
      have hagain := htable builtin
      rw [htype, hpromoted] at hagain
      exact hagain

end Catalog

/-!
# One wrapper
-/

namespace Wrapper

variable (wrapper : Wrapper) (expr : Node)

theorem typmodWith_wrap (typeOf : Node -> Lookup Oid) (typmodOf : Node -> Lookup Int32) :
    (wrapper.wrap expr).typmodWith typeOf typmodOf = typmodOf expr := by
  cases wrapper with
  | namedArg | inference | collate => rfl
  | value | array => exact pure_bind expr typmodOf

theorem collationWith_wrap (hnone : wrapper.collation? = none)
    (collationOf : Node -> Lookup Oid) :
    (wrapper.wrap expr).collationWith collationOf = collationOf expr := by
  cases wrapper with
  | namedArg | inference => rfl
  | collate => cases hnone
  | value | array => exact pure_bind expr collationOf

theorem collationWith_wrap_of_some {collation : Oid} (hsome : wrapper.collation? = some collation)
    (collationOf : Node -> Lookup Oid) :
    (wrapper.wrap expr).collationWith collationOf = pure collation := by
  cases wrapper with
  | collate =>
      cases hsome
      rfl
  | _ => cases hsome

theorem typeWith_wrap (hvalue : wrapper.isArray = false) (catalog : Catalog)
    (typeOf : Node -> Lookup Oid) :
    (wrapper.wrap expr).typeWith catalog typeOf = typeOf expr := by
  cases wrapper with
  | namedArg | inference | collate => rfl
  | value => exact pure_bind expr typeOf
  | array => cases hvalue

theorem typeWith_wrap_of_array (harray : wrapper.isArray = true) (catalog : Catalog)
    (typeOf : Node -> Lookup Oid) :
    (wrapper.wrap expr).typeWith catalog typeOf =
      typeOf expr >>= fun element =>
        match catalog.promotedArrayType element with
        | some promoted => pure promoted
        | none => raise (.missingArrayType element) := by
  cases wrapper with
  | array => exact pure_bind expr _
  | _ => cases harray

/-- What a wrapper makes of the type of the expression. -/
def typeOver (catalog : Catalog) (type : Oid) : Except TreeError Oid :=
  if wrapper.isArray then catalog.arrayOver type else .ok type

variable {depth limit : Nat} (hroom : depth < limit)

include hroom

theorem answer_exprTypmod_wrap (catalog : Catalog) :
    ((wrapper.wrap expr).exprTypmod catalog).answer { depth, limit } =
      (expr.exprTypmod catalog).answer { depth := depth + 1, limit } := by
  rw [Node.answer_exprTypmod catalog _ hroom, typmodWith_wrap]

theorem answer_exprCollation_wrap (hnone : wrapper.collation? = none) :
    (wrapper.wrap expr).exprCollation.answer { depth, limit } =
      expr.exprCollation.answer { depth := depth + 1, limit } := by
  rw [Node.answer_exprCollation _ hroom, collationWith_wrap wrapper expr hnone]

theorem answer_exprType_wrap (catalog : Catalog) :
    ((wrapper.wrap expr).exprType catalog).answer { depth, limit } =
      ((expr.exprType catalog).answer { depth := depth + 1, limit }).bind
        (wrapper.typeOver catalog) := by
  rw [Node.answer_exprType catalog _ hroom]
  cases harray : wrapper.isArray with
  | false =>
      rw [typeWith_wrap wrapper expr harray]
      cases (expr.exprType catalog).answer { depth := depth + 1, limit } with
      | error error => rfl
      | ok type => simp [Except.bind, typeOver, harray]
  | true =>
      rw [typeWith_wrap_of_array wrapper expr harray,
        answer_bind (expr.balanced_exprType catalog)]
      cases (expr.exprType catalog).answer { depth := depth + 1, limit } with
      | error error => rfl
      | ok type =>
          simp only [Except.bind, typeOver, harray, if_true, Catalog.arrayOver]
          cases catalog.promotedArrayType type with
          | none => rfl
          | some array => rfl

end Wrapper

/-!
# A stack of wrappers
-/

section

variable {α : Type} {lookup : Node -> Lookup α} {depth limit : Nat} {stack : List Wrapper}
  (expr : Node)

/-- An attribute that every wrapper of a stack computes from that of the expression inside is
computed layer by layer, from as many levels down as there are layers. -/
theorem answer_within {layer : Wrapper -> α -> Except TreeError α}
    (hstep : forall wrapper : Wrapper, wrapper ∈ stack ->
      forall (expr : Node) {depth : Nat}, depth < limit ->
        (lookup (wrapper.wrap expr)).answer { depth, limit } =
          ((lookup expr).answer { depth := depth + 1, limit }).bind (layer wrapper))
    (hlimit : depth + stack.length <= limit) :
    (lookup (expr.within stack)).answer { depth, limit } =
      stack.foldr (fun wrapper answer => answer.bind (layer wrapper))
        ((lookup expr).answer { depth := depth + stack.length, limit }) := by
  induction stack generalizing depth with
  | nil => rfl
  | cons wrapper rest ih =>
      -- the outermost wrapper takes a level, and the others start below it
      rw [List.length_cons] at hlimit
      rw [List.forall_mem_cons] at hstep
      have hdeeper : depth + 1 + rest.length <= limit := by omega
      have hlength : depth + (rest.length + 1) = depth + 1 + rest.length := by omega
      rw [List.foldr_cons, List.length_cons, hlength, ← ih hstep.right hdeeper]
      exact hstep.left (expr.within rest) (by omega)

theorem answer_within_of_transparent
    (hstep : forall wrapper : Wrapper, wrapper ∈ stack ->
      forall (expr : Node) {depth : Nat}, depth < limit ->
        (lookup (wrapper.wrap expr)).answer { depth, limit } =
          (lookup expr).answer { depth := depth + 1, limit })
    (hlimit : depth + stack.length <= limit) :
    (lookup (expr.within stack)).answer { depth, limit } =
      (lookup expr).answer { depth := depth + stack.length, limit } := by
  have hover : forall answer : Except TreeError α, answer.bind .ok = answer := by
    intro answer
    cases answer with
    | error error => rfl
    | ok x => rfl
  have hlayers : (lookup (expr.within stack)).answer { depth, limit } =
      stack.foldr (fun _ answer => answer.bind .ok)
        ((lookup expr).answer { depth := depth + stack.length, limit }) := by
    apply answer_within expr _ hlimit
    intro wrapper hmem inner deeper hroom
    rw [hover, hstep wrapper hmem inner hroom]
  rw [hlayers, List.foldr_fixed' fun _ => hover _]

end

section

variable (catalog : Catalog) (expr : Node) {stack : List Wrapper} {depth limit : Nat}

theorem answer_exprTypmod_within (hlimit : depth + stack.length <= limit) :
    ((expr.within stack).exprTypmod catalog).answer { depth, limit } =
      (expr.exprTypmod catalog).answer { depth := depth + stack.length, limit } := by
  apply answer_within_of_transparent expr _ hlimit
  intro wrapper _ inner deeper hroom
  exact wrapper.answer_exprTypmod_wrap inner hroom catalog

theorem answer_exprCollation_within (hnone : stack.findSome? Wrapper.collation? = none)
    (hlimit : depth + stack.length <= limit) :
    (expr.within stack).exprCollation.answer { depth, limit } =
      expr.exprCollation.answer { depth := depth + stack.length, limit } := by
  apply answer_within_of_transparent expr _ hlimit
  intro wrapper hmem inner deeper hroom
  exact wrapper.answer_exprCollation_wrap inner hroom (List.findSome?_eq_none_iff.mp hnone _ hmem)

/-- The outermost `COLLATE` decides, whatever it is in and whatever is in it. -/
theorem answer_exprCollation_within_of_some {collation : Oid}
    (hsome : stack.findSome? Wrapper.collation? = some collation)
    (hlimit : depth + stack.length <= limit) :
    (expr.within stack).exprCollation.answer { depth, limit } = .ok collation := by
  rcases List.findSome?_eq_some_iff.mp hsome with ⟨outer, wrapper, inner, rfl, hcollation, houter⟩
  rw [List.length_append, List.length_cons] at hlimit
  have hstack : expr.within (outer ++ wrapper :: inner) =
      (wrapper.wrap (expr.within inner)).within outer :=
    List.foldr_append
  have hnone : outer.findSome? Wrapper.collation? = none :=
    List.findSome?_eq_none_iff.mpr houter
  rw [hstack, answer_exprCollation_within _ hnone (by omega),
    Node.answer_exprCollation _ (by omega), wrapper.collationWith_wrap_of_some _ hcollation]
  rfl

theorem answer_exprType_within (hlimit : depth + stack.length <= limit) :
    ((expr.within stack).exprType catalog).answer { depth, limit } =
      stack.foldr (fun wrapper answer => answer.bind (wrapper.typeOver catalog))
        ((expr.exprType catalog).answer { depth := depth + stack.length, limit }) := by
  apply answer_within expr _ hlimit
  intro wrapper _ inner deeper hroom
  exact wrapper.answer_exprType_wrap inner hroom catalog

/-- One array promotes the type, and further ones change nothing. -/
theorem foldr_typeOver {catalog : Catalog} {stack : List Wrapper}
    (honce : stack.any Wrapper.isArray = true -> catalog.PromotesOnce)
    (base : Except TreeError Oid) :
    stack.foldr (fun wrapper answer => answer.bind (wrapper.typeOver catalog)) base =
      if stack.any Wrapper.isArray then base.bind catalog.arrayOver else base := by
  induction stack with
  | nil => rfl
  | cons wrapper rest ih =>
      have hrest : rest.any Wrapper.isArray = true -> catalog.PromotesOnce := by
        intro hany
        apply honce
        rw [List.any_cons, hany, Bool.or_true]
      rw [List.foldr_cons, ih hrest, List.any_cons]
      cases harray : wrapper.isArray with
      | false =>
          rw [Bool.false_or]
          cases (if rest.any Wrapper.isArray then base.bind catalog.arrayOver else base) with
          | error error => rfl
          | ok type => simp [Except.bind, Wrapper.typeOver, harray]
      | true =>
          have hover : wrapper.typeOver catalog = catalog.arrayOver := by
            funext type
            rw [Wrapper.typeOver, if_pos harray]
          rw [hover, Bool.true_or, if_pos rfl]
          cases hany : rest.any Wrapper.isArray with
          | false => rfl
          | true =>
              cases base with
              | error error => rfl
              | ok type => exact (hrest hany).arrayOver_bind type

end

/-- A stack of wrappers has the attributes of the expression inside, as long as there are
levels to look it up in: the type modifier of the expression, the collation of the outermost
`COLLATE` or else of the expression, and the type of the expression, promoted once if there
is an array of a sub-select in the stack. -/
theorem wrapper_stack_transparent (catalog : Catalog) (expr : Node) (stack : List Wrapper)
    (depth limit : Nat) :
    ((expr.exprTypmod catalog).StaysWithin { depth := depth + stack.length, limit } ->
      ((expr.within stack).exprTypmod catalog).answer { depth, limit } =
        (expr.exprTypmod catalog).answer { depth, limit }) ∧
      (forall collation : Oid, stack.findSome? Wrapper.collation? = some collation ->
        depth + stack.length <= limit ->
        (expr.within stack).exprCollation.answer { depth, limit } = .ok collation) ∧
      (stack.findSome? Wrapper.collation? = none ->
        expr.exprCollation.StaysWithin { depth := depth + stack.length, limit } ->
        (expr.within stack).exprCollation.answer { depth, limit } =
          expr.exprCollation.answer { depth, limit }) ∧
      ((expr.exprType catalog).StaysWithin { depth := depth + stack.length, limit } ->
        (forall error : TreeError, (expr.exprType catalog).answer { depth, limit } = .error error ->
          ((expr.within stack).exprType catalog).answer { depth, limit } = .error error) ∧
        (stack.any Wrapper.isArray = false ->
          ((expr.within stack).exprType catalog).answer { depth, limit } =
            (expr.exprType catalog).answer { depth, limit }) ∧
        (stack.any Wrapper.isArray = true -> catalog.PromotesOnce ->
          forall type : Oid, (expr.exprType catalog).answer { depth, limit } = .ok type ->
            ((expr.within stack).exprType catalog).answer { depth, limit } =
              match catalog.promotedArrayType type with
              | some array => .ok array
              | none => .error (.missingArrayType type))) := by
  have hbelow : depth <= depth + stack.length := Nat.le_add_right depth stack.length
  refine ⟨?_, ?_, ?_, ?_⟩
  · intro hstays
    have hlimit := Nat.le_of_lt (depth_lt_of_staysWithin hstays)
    have hrises (levels : Nat) := (congruence_rises levels limit).exprTypmod catalog expr depth
    rw [answer_exprTypmod_within catalog expr hlimit,
      answer_of_staysWithin hrises hbelow hlimit hstays]
  · intro collation hsome hlimit
    exact answer_exprCollation_within_of_some expr hsome hlimit
  · intro hnone hstays
    have hlimit := Nat.le_of_lt (depth_lt_of_staysWithin hstays)
    have hrises (levels : Nat) := (congruence_rises levels limit).exprCollation expr depth
    rw [answer_exprCollation_within expr hnone hlimit,
      answer_of_staysWithin hrises hbelow hlimit hstays]
  · intro hstays
    have hlimit := Nat.le_of_lt (depth_lt_of_staysWithin hstays)
    have hrises (levels : Nat) := (congruence_rises levels limit).exprType catalog expr depth
    rw [answer_exprType_within catalog expr hlimit,
      answer_of_staysWithin hrises hbelow hlimit hstays]
    refine ⟨?_, ?_, ?_⟩
    · intro error herror
      rw [herror]
      exact List.foldr_fixed' (fun _ => rfl) stack
    · intro hnone
      rw [foldr_typeOver (by simp [hnone]), if_neg (by simp [hnone])]
    · intro harray honce type htype
      rw [htype, foldr_typeOver fun _ => honce, if_pos harray]
      rfl

/-- The array of a sub-select of a collated array of a sub-select, passed by name. -/
def nestedArrays : List Wrapper :=
  let subselect : Subselect :=
    { link := { linkType := .expr, linkId := 0, operName := [], location := none }
      testExpr := none
      query := Query.bare
      column :=
        { resno := 1, name := none, sortGroupRef := 0, origTable := Oid.invalid, origColumn := 0,
          junk := false } }
  [.namedArg { name := "items", argNumber := 0, location := none }, .array subselect,
    .collate { collation := 950, location := none }, .value subselect, .array subselect,
    .collate { collation := Collation.default, location := none },
    .inference { collation := Oid.invalid, opclass := Oid.invalid }]

/-- Around a column of ten characters, two arrays are one array, and the outer collation
counts. -/
theorem wrapper_stack_transparent_nestedArrays :
    let column := Node.ofVar 1 1 BuiltinType.varchar.toOid 14 Collation.default 0
    Catalog.builtin.PromotesOnce ∧
      ((column.within nestedArrays).exprTypmod .builtin).answer { depth := 0, limit := 8 } =
        .ok 14 ∧
      (column.within nestedArrays).exprCollation.answer { depth := 0, limit := 8 } = .ok 950 ∧
      ((column.within nestedArrays).exprType .builtin).answer { depth := 0, limit := 8 } =
        .ok BuiltinType.varcharArray.toOid := by
  intro column
  rcases wrapper_stack_transparent .builtin column nestedArrays 0 8 with
    ⟨htypmod, hcollation, _, htype⟩
  rcases htype (staysWithin_of_answer_ok rfl) with ⟨_, _, harray⟩
  refine ⟨Catalog.promotesOnce_builtin, ?_, ?_, ?_⟩
  · exact htypmod (staysWithin_of_answer_ok rfl)
  · exact hcollation 950 rfl (by decide)
  · exact harray rfl Catalog.promotesOnce_builtin _ rfl

end QueryTree
