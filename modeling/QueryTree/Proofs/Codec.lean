import Mathlib.Data.List.Nodup
import QueryTree.Json.Record
import QueryTree.Proofs.JsonText

/-!
# Reading back what was written

A reading recovers a value if the written form can stand in a text and the value is read
from it under all rules that leave room for its brackets.  Records, alternatives, lists
and optional values recover what their parts recover, so a codec is lawful as soon as its
leaves are.
-/

namespace QueryTree

/-- A finite type whose members are found again by their names. -/
class LawfulNamed (α : Type) [Named α] : Prop where
  ofName?_name : forall member : α, Named.ofName? (Named.name member) = some member

/-- It is enough that the list of members is complete and no name is used twice. -/
theorem lawfulNamed_of_nodup {α : Type} [Named α]
    (hmembers : forall member : α, member ∈ (Named.members : List α))
    (hnames : ((Named.members : List α).map Named.name).Nodup) : LawfulNamed α where
  ofName?_name member := by
    apply Named.ofName?_name member (hmembers member)
    intro other hname
    exact List.inj_on_of_nodup_map hnames (hmembers other) (hmembers member) hname

namespace Digits

theorem ofNat_ne_nil (n : Nat) : ofNat n ≠ [] := by
  rw [ofNat]
  split
  · exact List.cons_ne_nil _ _
  · exact List.append_ne_nil_of_right_ne_nil _ (List.cons_ne_nil _ _)

/-- Only zero is written with a zero in front. -/
theorem ofNat_leading (n : Nat) {rest : List Digit} (hn : ofNat n = Digit.zero :: rest) :
    rest = [] := by
  induction n using Nat.strongRecOn generalizing rest with
  | ind n ih =>
      rw [ofNat] at hn
      split at hn
      · exact (List.cons.inj hn).right.symm
      · rename_i hlarge
        rcases hfront : ofNat (n / 10) with _ | ⟨first, others⟩
        · exact absurd hfront (ofNat_ne_nil (n / 10))
        · rw [hfront, List.cons_append] at hn
          rw [(List.cons.inj hn).left] at hfront
          rw [ih (n / 10) (by omega) hfront] at hfront
          have hvalue := toNat_ofNat (n / 10)
          rw [hfront] at hvalue
          have hzero : n / 10 = 0 := hvalue.symm
          omega

end Digits

namespace Json

variable {α β : Type} {bound : Nat}

/-- The reading gets the answer from the value, under all rules with room for the value and
less room than the bound. -/
def Recovers (bound : Nat) (read : Json -> Decode α) (value : Json) (answer : α) : Prop :=
  forall rules : Rules, rules.room < bound -> value.depth <= rules.room ->
    value.Spelled ∧ read value rules = some answer

theorem Recovers.mono {read : Json -> Decode α} {value : Json} {answer : α} {smaller : Nat}
    (hread : Recovers bound read value answer) (hle : smaller <= bound) :
    Recovers smaller read value answer := by
  intro rules hroom hdepth
  exact hread rules (Nat.lt_of_lt_of_le hroom hle) hdepth

theorem recovers_map {read : Json -> Decode α} {value : Json} {answer : α} (f : α -> β)
    (hread : Recovers bound read value answer) :
    Recovers bound (fun value => do return f (← read value)) value (f answer) := by
  intro rules hroom hdepth
  rcases hread rules hroom hdepth with ⟨hspelled, hanswer⟩
  refine ⟨hspelled, ?_⟩
  show (read value rules >>= fun x => some (f x)) = _
  rw [hanswer]
  rfl

/-!
# Depths
-/

theorem depth_le_depthItems {item : Json} {items : List Json} (hitem : item ∈ items) :
    item.depth <= depthItems items := by
  induction items with
  | nil => cases hitem
  | cons first rest ih =>
      rw [depthItems]
      cases hitem with
      | head => exact Nat.le_max_left _ _
      | tail _ hrest => exact Nat.le_trans (ih hrest) (Nat.le_max_right _ _)

theorem depth_le_depthFields {key : String} {value : Json} {fields : List (String × Json)}
    (hfield : (key, value) ∈ fields) : value.depth <= depthFields fields := by
  induction fields with
  | nil => cases hfield
  | cons first rest ih =>
      rw [depthFields]
      cases hfield with
      | head => exact Nat.le_max_left _ _
      | tail _ hrest => exact Nat.le_trans (ih hrest) (Nat.le_max_right _ _)

/-!
# Fields of a record
-/

/-- The field is the next value, and the others are left to read. -/
def Takes (bound : Nat) (field : Fields α) (value : Json) (answer : α) : Prop :=
  forall (rules : Rules) (rest : List (Option Json)), rules.room < bound ->
    value.depth <= rules.room ->
      value.Spelled ∧ field (some value :: rest) rules = some (answer, rest)

/-- The fields are read one after the other, down to the last value. -/
def TakesAll (bound : Nat) (fields : Fields α) (values : List Json) (answer : α) : Prop :=
  forall rules : Rules, rules.room < bound ->
    (forall value : Json, value ∈ values -> value.depth <= rules.room) ->
      (forall value : Json, value ∈ values -> value.Spelled) ∧
        fields (values.map some) rules = some (answer, [])

theorem takes_nextBy {read : Json -> Decode α} {absent : Option α} {value : Json} {answer : α}
    (hread : Recovers bound read value answer) :
    Takes bound (Fields.nextBy read absent) value answer := by
  intro rules rest hroom hdepth
  rcases hread rules hroom hdepth with ⟨hspelled, hanswer⟩
  refine ⟨hspelled, ?_⟩
  show (read value rules >>= fun x => some (x, rest)) = _
  rw [hanswer]
  rfl

theorem takes_one {read : Json -> Decode α} {value : Json} {answer : α}
    (hread : Recovers bound read value answer) : Takes bound (Fields.one read) value answer :=
  takes_nextBy hread

/-!
# Lists and optional values
-/

theorem mapM_recovers {read : Json -> Decode α} {write : α -> Json} {items : List α}
    (hitems : forall item : α, item ∈ items -> Recovers bound read (write item) item)
    (rules : Rules) (hroom : rules.room < bound)
    (hdepth : forall item : α, item ∈ items -> (write item).depth <= rules.room) :
    (forall item : α, item ∈ items -> (write item).Spelled) ∧
      ((items.map write).mapM read) rules = some items := by
  induction items with
  | nil => exact ⟨nofun, rfl⟩
  | cons item rest ih =>
      rcases hitems item List.mem_cons_self rules hroom (hdepth item List.mem_cons_self) with
        ⟨hspelled, hfirst⟩
      rcases ih (fun other hother => hitems other (List.mem_cons_of_mem item hother))
        (fun other hother => hdepth other (List.mem_cons_of_mem item hother)) with
        ⟨hothers, hrest⟩
      refine ⟨List.forall_mem_cons.mpr ⟨hspelled, hothers⟩, ?_⟩
      rw [List.map_cons, List.mapM_cons]
      show (read (write item) rules >>= fun x =>
        (rest.map write).mapM read rules >>= fun xs => some (x :: xs)) = _
      rw [hfirst, hrest]
      rfl

/-- A list is read inside a bracket of its own. -/
theorem recovers_items {read : Json -> Decode α} {write : α -> Json} {items : List α}
    (hitems : forall item : α, item ∈ items -> Recovers bound read (write item) item)
    {rules : Rules} (hroom : rules.room < bound)
    (hdepth : (arr (items.map write)).depth <= rules.room) :
    (arr (items.map write)).Spelled ∧
      Decode.enter ((items.map write).mapM read) rules = some items := by
  rcases rules with ⟨room, bareAlternatives⟩
  rw [depth] at hdepth
  cases room with
  | zero =>
      simp only at hdepth
      omega
  | succ room =>
      have hbelow (item : α) (hitem : item ∈ items) : (write item).depth <= room := by
        have hle := depth_le_depthItems (List.mem_map_of_mem hitem : write item ∈ _)
        simp only at hdepth
        omega
      rcases mapM_recovers hitems ⟨room, bareAlternatives⟩ (Nat.lt_of_succ_lt hroom) hbelow with
        ⟨hspelled, hread⟩
      exact ⟨.arr (List.forall_mem_map.mpr hspelled), hread⟩

theorem enter_map (f : α -> β) (inside : Decode α) (rules : Rules) :
    Decode.enter (do return f (← inside)) rules = (Decode.enter inside rules).map f := by
  rcases rules with ⟨room, bareAlternatives⟩
  cases room with
  | zero => rfl
  | succ room =>
      show (inside _ >>= fun x => some (f x)) = (inside _).map f
      cases inside ⟨room, bareAlternatives⟩ with
      | none => rfl
      | some x => rfl

theorem takes_many {read : Json -> Decode α} {write : α -> Json} {items : List α}
    (hitems : forall item : α, item ∈ items -> Recovers bound read (write item) item) :
    Takes bound (Fields.many read) (.arr (items.map write)) items := by
  apply takes_nextBy
  intro rules hroom hdepth
  exact recovers_items hitems hroom hdepth

theorem takes_opt_none (read : Json -> Decode α) : Takes bound (Fields.opt read) .null none := by
  apply takes_nextBy
  intro rules _hroom _hdepth
  exact ⟨.null, rfl⟩

theorem recovers_some {read : Json -> Decode α} {value : Json} {answer : α}
    (hvalue : value ≠ .null) (hread : Recovers bound read value answer) :
    Recovers bound
      (fun value =>
        match value with
        | .null => pure none
        | value => do return some (← read value))
      value (some answer) := by
  intro rules hroom hdepth
  rcases hread rules hroom hdepth with ⟨hspelled, hsome⟩
  refine ⟨hspelled, ?_⟩
  cases value with
  | null => exact absurd rfl hvalue
  | _ =>
      show (read _ rules >>= fun x => some (some x)) = _
      rw [hsome]
      rfl

theorem takes_opt_some {read : Json -> Decode α} {value : Json} {answer : α}
    (hvalue : value ≠ .null) (hread : Recovers bound read value answer) :
    Takes bound (Fields.opt read) value (some answer) :=
  takes_nextBy (recovers_some hvalue hread)

/-!
# Records
-/

theorem takesAll_nil (answer : α) : TakesAll bound (pure answer) [] answer := by
  intro rules _hroom _hdepth
  exact ⟨nofun, rfl⟩

theorem takesAll_cons {field : Fields α} {next : α -> Fields β} {value : Json}
    {values : List Json} {x : α} {answer : β} (hfield : Takes bound field value x)
    (hnext : TakesAll bound (next x) values answer) :
    TakesAll bound (field >>= next) (value :: values) answer := by
  intro rules hroom hdepth
  rcases hfield rules (values.map some) hroom (hdepth value List.mem_cons_self) with
    ⟨hspelled, hfirst⟩
  rcases hnext rules hroom (fun other hother => hdepth other (List.mem_cons_of_mem value hother))
    with ⟨hothers, hrest⟩
  refine ⟨List.forall_mem_cons.mpr ⟨hspelled, hothers⟩, ?_⟩
  show (field (some value :: values.map some) rules >>= fun read => next read.1 read.2 rules) = _
  rw [hfirst]
  exact hrest

theorem mem_zip_of_mem_right {names : List String} {values : List Json}
    (hlength : values.length = names.length) {value : Json} (hvalue : value ∈ values) :
    exists name : String, (name, value) ∈ names.zip values := by
  rw [← List.map_snd_zip (Nat.le_of_eq hlength)] at hvalue
  rcases List.mem_map.mp hvalue with ⟨⟨name, other⟩, hmem, rfl⟩
  exact ⟨name, hmem⟩

theorem occurrences_zip_le_one {names : List String} {values : List Json} (hnames : names.Nodup)
    (hlength : values.length = names.length) (key : String) :
    occurrences key (names.zip values) <= 1 := by
  have hkeys : (names.zip values).map Prod.fst = names :=
    List.map_fst_zip (Nat.le_of_eq hlength.symm)
  have hcount : occurrences key (names.zip values) = names.count key := by
    rw [occurrences, List.count, ← hkeys, List.countP_map, hkeys]
    rfl
  rw [hcount]
  exact List.nodup_iff_count_le_one.mp hnames key

theorem map_field?_zip {names : List String} {values : List Json} (hnames : names.Nodup)
    (hlength : values.length = names.length) :
    names.map (fun name => field? name (names.zip values)) = values.map some := by
  induction names generalizing values with
  | nil =>
      cases values with
      | nil => rfl
      | cons value rest => cases hlength
  | cons name names ih =>
      cases values with
      | nil => cases hlength
      | cons value values =>
          rw [List.nodup_cons] at hnames
          have hrest := ih hnames.right (Nat.succ.inj hlength)
          have hlater : names.map (fun other => field? other ((name, value) :: names.zip values)) =
              names.map (fun other => field? other (names.zip values)) := by
            apply List.map_congr_left
            intro other hother
            have hne : name ≠ other := by
              rintro rfl
              exact hnames.left hother
            simp [field?, hne]
          rw [List.zip_cons_cons, List.map_cons, List.map_cons, hlater, hrest]
          simp [field?]

theorem recordValues_ofRecord {names : List String} {values : List Json} (hnames : names.Nodup)
    (hlength : values.length = names.length) :
    recordValues names (ofRecord names values) = some (values.map some) := by
  rw [ofRecord, recordValues, if_pos, map_field?_zip hnames hlength]
  rw [List.all_eq_true]
  intro name _hname
  exact decide_eq_true (occurrences_zip_le_one hnames hlength name)

/-- A record whose names are distinct is recovered if its fields take its values. -/
theorem recovers_record {names : List String} {fields : Fields α} {values : List Json}
    {answer : α} (hnames : names.Nodup) (hlength : values.length = names.length)
    (hfields : TakesAll bound fields values answer) :
    Recovers bound (record names fields) (ofRecord names values) answer := by
  rintro ⟨room, bareAlternatives⟩ hroom hdepth
  rw [ofRecord, depth] at hdepth
  -- the values are found by their names, in the order of the names
  rw [record, recordValues_ofRecord hnames hlength]
  cases room with
  | zero =>
      simp only at hdepth
      omega
  | succ room =>
      have hbelow (value : Json) (hvalue : value ∈ values) : value.depth <= room := by
        rcases mem_zip_of_mem_right hlength hvalue with ⟨name, hmem⟩
        have hle := depth_le_depthFields hmem
        simp only at hdepth
        omega
      rcases hfields ⟨room, bareAlternatives⟩ (Nat.lt_of_succ_lt hroom) hbelow with
        ⟨hspelled, hread⟩
      refine ⟨.obj fun field hfield => hspelled field.2 (List.of_mem_zip hfield).right, ?_⟩
      show (fields (values.map some) ⟨room, bareAlternatives⟩ >>= fun read => some read.1) = _
      rw [hread]
      rfl

theorem recovers_alternativeRecord {names : List String} {fields : Fields α} {values : List Json}
    {answer : α} (hnames : names.Nodup) (hlength : values.length = names.length)
    (hfields : TakesAll bound fields values answer) :
    Recovers bound (alternativeRecord names fields) (ofRecord names values) answer :=
  recovers_record hnames hlength hfields

/-!
# Alternatives
-/

/-- What an alternative holds is read inside a bracket. -/
theorem recovers_alternative {bare : String -> Option α} {holding : String -> Json -> Decode α}
    {name : String} {value : Json} {answer : α}
    (hholding : Recovers bound (holding name) value answer) :
    Recovers (bound + 1) (alternatives bare holding) (alternative name value) answer := by
  rintro ⟨room, bareAlternatives⟩ hroom hdepth
  simp only [alternative, depth, depthFields] at hdepth
  cases room with
  | zero => omega
  | succ room =>
      have hbelow : value.depth <= room := by omega
      rcases hholding ⟨room, bareAlternatives⟩ (Nat.lt_of_succ_lt_succ hroom) hbelow with
        ⟨hspelled, hread⟩
      exact ⟨.obj (List.forall_mem_singleton.mpr hspelled), hread⟩

theorem recovers_bare {bare : String -> Option α} {holding : String -> Json -> Decode α}
    {name : String} {answer : α} (hbare : bare name = some answer) :
    Recovers bound (alternatives bare holding) (.str name) answer := by
  intro rules _hroom _hdepth
  refine ⟨.str name, ?_⟩
  rw [alternatives, hbare]
  rfl

/-!
# Leaves
-/

/-- A type whose written form is read back. -/
class LawfulCoded (α : Type) [Coded α] : Prop where
  recovers : forall (bound : Nat) (x : α), Recovers bound decode (encode x) x

/-- A type that null does not stand for. -/
class NeverNull (α : Type) [Coded α] : Prop where
  encode_ne_null : forall x : α, encode x ≠ Json.null

theorem takes_next [Coded α] [LawfulCoded α] (x : α) :
    Takes bound Fields.next (encode x) x :=
  takes_nextBy (LawfulCoded.recovers bound x)

instance [Named α] [LawfulNamed α] : LawfulCoded α where
  recovers _ member := recovers_bare (LawfulNamed.ofName?_name member)

instance [Named α] : NeverNull α where
  encode_ne_null _ := nofun

instance : LawfulCoded Bool where
  recovers _ value := fun _ _ _ => ⟨.bool value, rfl⟩

instance : LawfulCoded String where
  recovers _ text := fun _ _ _ => ⟨.str text, rfl⟩

instance : NeverNull String where
  encode_ne_null _ := nofun

instance : LawfulCoded Char where
  recovers _ c := by
    intro rules _hroom _hdepth
    refine ⟨.str c.toString, ?_⟩
    show (match c.toString.toList with
      | [c] => pure c
      | _ => failure : Decode Char) rules = _
    rw [Char.toString_eq_singleton, String.toList_singleton]
    rfl

theorem ofNat_wellFormed (n : Nat) : (Number.ofNat n).WellFormed where
  whole := Digits.ofNat_ne_nil n
  leading _ := Digits.ofNat_leading n
  fraction := nofun
  exponent := nofun

theorem spelled_ofNat (n : Nat) : (ofNat n).Spelled :=
  .num (ofNat_wellFormed n)

theorem spelled_ofInt (n : Int) : (ofInt n).Spelled := by
  cases n with
  | ofNat n => exact spelled_ofNat n
  | negSucc n =>
      have hsize := ofNat_wellFormed (n + 1)
      exact .num ⟨hsize.whole, hsize.leading, hsize.fraction, hsize.exponent⟩

theorem toInt?_ofNat {n : Nat} (hn : n < UInt64.size) : (Number.ofNat n).toInt? = some n := by
  simp only [Number.toInt?, Number.ofNat, Digits.toNat_ofNat]
  simp [hn]

theorem toInt?_ofInt {n : Int} (hlow : -(Number.signedLimit : Int) <= n)
    (hhigh : n < (UInt64.size : Int)) : (Number.ofInt n).toInt? = some n := by
  cases n with
  | ofNat n => exact toInt?_ofNat (Int.ofNat_lt.mp hhigh)
  | negSucc n =>
      have hsize : n + 1 <= Number.signedLimit := by omega
      simp only [Number.toInt?, Number.ofInt, Number.ofNat, Digits.toNat_ofNat, if_true,
        Nat.succ_ne_zero, if_false, hsize]
      rfl

theorem natBelow_ofNat {limit n : Nat} (hn : n < limit) (hlimit : limit <= UInt64.size)
    (rules : Rules) : natBelow limit (ofNat n) rules = some n := by
  have hread : integer (ofNat n) rules = some (n : Int) := by
    rw [ofNat, integer, toInt?_ofNat (Nat.lt_of_lt_of_le hn hlimit)]
    rfl
  show (integer (ofNat n) rules >>= _) = _
  rw [hread]
  show (if n < limit then pure n else failure : Decode Nat) rules = _
  rw [if_pos hn]
  rfl

theorem intBetween_ofInt {low high n : Int} (hn : low <= n ∧ n <= high)
    (hlow : -(Number.signedLimit : Int) <= low) (hhigh : high < (UInt64.size : Int))
    (rules : Rules) : intBetween low high (ofInt n) rules = some n := by
  have hread : integer (ofInt n) rules = some n := by
    have hword := toInt?_ofInt (Int.le_trans hlow hn.left) (Int.lt_of_le_of_lt hn.right hhigh)
    rw [ofInt, integer, hword]
    rfl
  show (integer (ofInt n) rules >>= fun n =>
    (if low <= n && n <= high then pure n else failure : Decode Int) rules) = _
  rw [hread]
  show (if low <= n && n <= high then pure n else failure : Decode Int) rules = _
  rw [if_pos (by simp [hn])]
  rfl

instance : LawfulCoded UInt8 where
  recovers _ n := by
    intro rules _hroom _hdepth
    refine ⟨spelled_ofNat n.toNat, ?_⟩
    show (natBelow UInt8.size (ofNat n.toNat) rules >>= fun n => some (UInt8.ofNat n)) = _
    rw [natBelow_ofNat n.toNat_lt_size (by decide)]
    exact congrArg some UInt8.ofNat_toNat

instance : LawfulCoded UInt32 where
  recovers _ n := by
    intro rules _hroom _hdepth
    refine ⟨spelled_ofNat n.toNat, ?_⟩
    show (natBelow UInt32.size (ofNat n.toNat) rules >>= fun n => some (UInt32.ofNat n)) = _
    rw [natBelow_ofNat n.toNat_lt_size (by decide)]
    exact congrArg some UInt32.ofNat_toNat

instance : LawfulCoded UInt64 where
  recovers _ n := by
    intro rules _hroom _hdepth
    refine ⟨spelled_ofNat n.toNat, ?_⟩
    show (natBelow UInt64.size (ofNat n.toNat) rules >>= fun n => some (UInt64.ofNat n)) = _
    rw [natBelow_ofNat n.toNat_lt_size (by decide)]
    exact congrArg some UInt64.ofNat_toNat

instance : LawfulCoded Int16 where
  recovers _ n := by
    intro rules _hroom _hdepth
    refine ⟨spelled_ofInt n.toInt, ?_⟩
    show (intBetween _ _ (ofInt n.toInt) rules >>= fun n => some (Int16.ofInt n)) = _
    rw [intBetween_ofInt ⟨n.minValue_le_toInt, n.toInt_le⟩ (by decide) (by decide)]
    exact congrArg some n.ofInt_toInt

instance : LawfulCoded Int32 where
  recovers _ n := by
    intro rules _hroom _hdepth
    refine ⟨spelled_ofInt n.toInt, ?_⟩
    show (intBetween _ _ (ofInt n.toInt) rules >>= fun n => some (Int32.ofInt n)) = _
    rw [intBetween_ofInt ⟨n.minValue_le_toInt, n.toInt_le⟩ (by decide) (by decide)]
    exact congrArg some n.ofInt_toInt

instance : LawfulCoded Int64 where
  recovers _ n := by
    intro rules _hroom _hdepth
    refine ⟨spelled_ofInt n.toInt, ?_⟩
    show (intBetween _ _ (ofInt n.toInt) rules >>= fun n => some (Int64.ofInt n)) = _
    rw [intBetween_ofInt ⟨n.minValue_le_toInt, n.toInt_le⟩ (by decide) (by decide)]
    exact congrArg some n.ofInt_toInt

instance : NeverNull UInt64 where
  encode_ne_null _ := nofun

instance [Coded α] [LawfulCoded α] [NeverNull α] : LawfulCoded (Option α) where
  recovers bound
    | none => fun _ _ _ => ⟨.null, rfl⟩
    | some x => recovers_some (NeverNull.encode_ne_null x) (LawfulCoded.recovers bound x)

instance [Coded α] [LawfulCoded α] : LawfulCoded (List α) where
  recovers bound items := by
    intro rules hroom hdepth
    exact recovers_items (fun item _ => LawfulCoded.recovers bound item) hroom hdepth

/-!
# Whole values
-/

section

variable {read : Json -> Decode α} {value : Json} {answer : α}
  (hread : forall rules : Rules, value.depth <= rules.room ->
    value.Spelled ∧ read value rules = some answer)

include hread

theorem decode?_of_recovers : decode? read value = some answer :=
  (hread (Rules.roomFor value) (Nat.le_refl _)).right

theorem decodeText?_compact (hdepth : value.depth <= Rules.text.room) :
    decodeText? read value.compact = some answer := by
  rcases hread Rules.text hdepth with ⟨hspelled, hanswer⟩
  rw [decodeText?, parse?_compact hspelled]
  exact hanswer

theorem decodeText?_pretty (hdepth : value.depth <= Rules.text.room) :
    decodeText? read (value.pretty ++ "\n") = some answer := by
  rcases hread Rules.text hdepth with ⟨hspelled, hanswer⟩
  rw [decodeText?, parse?_pretty hspelled]
  exact hanswer

end

end Json

end QueryTree
