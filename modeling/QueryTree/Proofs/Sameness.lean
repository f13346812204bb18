import Mathlib.Data.List.Forall2
import QueryTree.Node.Equality
import QueryTree.Node.Label
import QueryTree.Node.Rebuild
import QueryTree.Proofs.Coverage

/-!
# Trees that are the same

Comparing two trees goes through all kinds of nodes and all their fields.  What it finds out
about one node is this: the second node is the first one with other nodes in its slots, and
slot by slot the nodes are the same.  Only constants are an exception, since decimals are
compared as numbers.  Putting nodes into slots is lawful, so sameness is an equivalence
wherever the comparison of constants is one, that is, without floating-point numbers.
-/

namespace QueryTree

/-!
# Constants
-/

/-- The number that a decimal stands for: its coefficient, divided by ten for each place. -/
def Decimal.value (d : Decimal) : Rat :=
  mkRat d.signed (Nat.pow 10 d.scale)

theorem Decimal.sameValue_iff {a b : Decimal} : a.sameValue b = true <-> a.value = b.value := by
  have hpower (scale : Nat) : Nat.pow 10 scale ≠ 0 := Nat.ne_of_gt (Nat.pow_pos (by decide))
  rw [sameValue, beq_iff_eq, value, value, Rat.mkRat_eq_iff (hpower _) (hpower _)]

namespace Datum

/-- Not a floating-point number. -/
def IsExact : Datum -> Prop
  | .float4 _ | .float8 _ => False
  | _ => True

/-- Exact values are the same if they are equal, or decimals that are the same number. -/
theorem same_iff_of_isExact {a b : Datum} (hexact : a.IsExact) :
    a.same b = true <->
      a = b ∨ exists x y : Decimal, a = .numeric x ∧ b = .numeric y ∧ x.value = y.value := by
  cases a with
  | float4 | float8 => exact hexact.elim
  | numeric x =>
      cases b with
      | numeric y =>
          simp only [same, Decimal.sameValue_iff, numeric.injEq]
          grind
      | _ => simp [same]
  | _ => cases b <;> simp [same]

variable {a b c : Datum}

theorem same_self (hexact : a.IsExact) : a.same a = true :=
  (same_iff_of_isExact hexact).mpr (Or.inl rfl)

theorem isExact_of_same (hexact : a.IsExact) (hsame : a.same b = true) : b.IsExact := by
  rcases (same_iff_of_isExact hexact).mp hsame with rfl | ⟨x, y, rfl, rfl, _⟩
  · exact hexact
  · trivial

theorem same_symm (hexact : a.IsExact) (hsame : a.same b = true) : b.same a = true := by
  rw [same_iff_of_isExact (isExact_of_same hexact hsame)]
  rcases (same_iff_of_isExact hexact).mp hsame with rfl | ⟨x, y, rfl, rfl, hvalue⟩
  · exact Or.inl rfl
  · exact Or.inr ⟨y, x, rfl, rfl, hvalue.symm⟩

theorem same_trans (hexact : a.IsExact) (hfirst : a.same b = true) (hsecond : b.same c = true) :
    a.same c = true := by
  rcases (same_iff_of_isExact hexact).mp hfirst with rfl | ⟨x, y, rfl, rfl, hvalue⟩
  · exact hsecond
  · have hnumeric : (numeric y).IsExact := trivial
    rcases (same_iff_of_isExact hnumeric).mp hsecond with rfl | ⟨_, z, hy, rfl, hother⟩
    · exact hfirst
    · cases hy
      exact Decimal.sameValue_iff.mpr (hvalue.trans hother)

/-- Values that are the same are the same four-byte integer, or none. -/
theorem int4?_of_same (hsame : a.same b = true) : b.int4? = a.int4? := by
  cases a with
  | int4 x =>
      cases b with
      | int4 y =>
          cases beq_iff_eq.mp hsame
          rfl
      | _ => cases hsame
  | _ =>
      cases b with
      | int4 y => cases hsame
      | _ => rfl

end Datum

/-- Constants are the same if they agree in all but their values, and these are the same. -/
theorem Const.same_iff {a b : Const} :
    a.same b = true <-> b = { a with value := b.value } ∧ a.value.same b.value = true := by
  rcases a with ⟨type, typmod, collation, len, byVal, value, location⟩
  rcases b with ⟨type', typmod', collation', len', byVal', value', location'⟩
  simp only [same, Bool.and_eq_true, beq_iff_eq, Const.mk.injEq]
  grind

/-!
# Refilling all slots

`rebuild` replaces what a walk shows of a node.  Here everything that a node holds is replaced,
in the order of its slots.
-/

open Node.Refill in
/-- The query with its slots refilled in declaration order. -/
def Query.refillSlots (q : Query) : Node.Refill Query := do
  let cteList ← many q.cteList
  let rtable ← many q.rtable
  let jointree ← opt q.jointree
  let targetList ← many q.targetList
  let withCheckOptions ← many q.withCheckOptions
  let onConflict ← opt q.onConflict
  let returningList ← many q.returningList
  let groupClause ← many q.groupClause
  let havingQual ← opt q.havingQual
  let windowClause ← many q.windowClause
  let distinctClause ← many q.distinctClause
  let sortClause ← many q.sortClause
  let limitOffset ← opt q.limitOffset
  let limitCount ← opt q.limitCount
  let setOperations ← opt q.setOperations
  return {
    q with
    cteList, rtable, jointree, targetList, withCheckOptions, onConflict, returningList,
    groupClause, havingQual, windowClause, distinctClause, sortClause, limitOffset, limitCount,
    setOperations }

theorem Query.refillSlots_slots_append (q : Query) (rest : List Node) :
    q.refillSlots (q.slots ++ rest) = (q, rest) := by
  cases q
  simp [refillSlots, slots, List.append_assoc]

namespace Node

open Refill in
/-- The node with its slots refilled in the order of `slots`. -/
def refillSlots : Node -> Refill Node
  | .setOperationStmt data left right groupClauses => do
      return .setOperationStmt data (← one left) (← one right) (← many groupClauses)
  | .query q => do return .query (← q.refillSlots)
  | .rangeTblEntry entry => do return .rangeTblEntry (← entry.refill .everything)
  | node => node.refill

/-- The node with everything in its slots replaced. -/
def withSlots (node : Node) (supply : List Node) : Node :=
  (node.refillSlots supply).1

/-- A node that gets what it holds stays as it is. -/
theorem withSlots_slots (node : Node) : node.withSlots node.slots = node := by
  cases node with
  | setOperationStmt data left right groupClauses =>
      simp [withSlots, refillSlots, slots, Refill.many_apply]
  | query q =>
      have hrefill := q.refillSlots_slots_append []
      rw [List.append_nil] at hrefill
      simp [withSlots, refillSlots, slots, hrefill]
  | rangeTblEntry entry =>
      have hcontents := RangeTblEntry.withContents_contents .everything entry
      rw [RangeTblEntry.contents_everything] at hcontents
      exact congrArg rangeTblEntry hcontents
  | _ => exact rebuild_children _

open Refill in
/-- What is put in last is what stays. -/
theorem withSlots_withSlots {node : Node} {supply next : List Node}
    (hsupply : supply.length = node.slots.length) (hnext : next.length = node.slots.length) :
    (node.withSlots supply).withSlots next = node.withSlots next := by
  cases node with
  | setOperationStmt data left right groupClauses =>
      simp only [slots, List.length_append, List.length_cons, List.length_nil] at hsupply hnext
      simp (disch := grind) only [withSlots, refillSlots, bind_apply, pure_apply, one_rest, one_one,
        many_many, List.drop_drop]
  | query q =>
      simp only [slots, Query.slots, List.length_append] at hsupply hnext
      simp (disch := grind) only [withSlots, refillSlots, Query.refillSlots, bind_apply, pure_apply,
        many_rest, opt_rest, many_many, opt_opt, List.drop_drop]
  | rangeTblEntry entry =>
      rw [slots, ← RangeTblEntry.contents_everything] at hsupply hnext
      exact congrArg rangeTblEntry (RangeTblEntry.withContents_withContents hsupply hnext)
  | _ => exact rebuild_rebuild hsupply hnext

end Node

/-!
# Slots that hold the same
-/

theorem sameList_iff {nodes others : List Node} :
    sameList nodes others = true <->
      List.Forall₂ (fun node other => node.same other = true) nodes others := by
  induction nodes generalizing others with
  | nil =>
      cases others with
      | nil => exact ⟨fun _ => .nil, fun _ => rfl⟩
      | cons other rest => exact ⟨nofun, nofun⟩
  | cons node nodes ih =>
      cases others with
      | nil => exact ⟨nofun, nofun⟩
      | cons other rest => rw [sameList, Bool.and_eq_true, ih, List.forall₂_cons]

theorem sameOption_iff {slot other : Option Node} :
    sameOption slot other = true <->
      Option.Rel (fun node other => node.same other = true) slot other := by
  constructor
  · intro hsame
    match slot, other with
    | none, none => exact .none
    | some node, some other => exact .some hsame
    | none, some _ | some _, none => cases hsame
  · intro hsame
    cases hsame with
    | some hnode => exact hnode
    | none => rfl

theorem CaseWhen.parts_of_same {w v : CaseWhen} (hsame : w.same v = true) :
    w.expr.same v.expr = true ∧ w.result.same v.result = true ∧ w.location = v.location := by
  cases w
  cases v
  simp only [same, Bool.and_eq_true, beq_iff_eq] at hsame
  exact ⟨hsame.left.left, hsame.left.right, hsame.right⟩

theorem sameWhens_iff {whens others : List CaseWhen} :
    sameWhens whens others = true <->
      List.Forall₂ (fun w v => w.same v = true) whens others := by
  induction whens generalizing others with
  | nil =>
      cases others with
      | nil => exact ⟨fun _ => .nil, fun _ => rfl⟩
      | cons v others => exact ⟨nofun, nofun⟩
  | cons w whens ih =>
      cases others with
      | nil => exact ⟨nofun, nofun⟩
      | cons v others => rw [sameWhens, Bool.and_eq_true, ih, List.forall₂_cons]

/-- A relation between lists is transitive from a list on if it is from its members on. -/
theorem forall₂_trans_of_mem {α : Type} {related : α -> α -> Prop} {xs ys zs : List α}
    (htrans : forall x : α, x ∈ xs -> forall y z : α,
      related x y -> related y z -> related x z)
    (hfirst : List.Forall₂ related xs ys) (hsecond : List.Forall₂ related ys zs) :
    List.Forall₂ related xs zs := by
  induction hfirst generalizing zs with
  | nil => exact hsecond
  | cons hhead hrest ih =>
      cases hsecond with
      | cons hnext hlast =>
          rcases List.forall_mem_cons.mp htrans with ⟨hx, hxs⟩
          exact .cons (hx _ _ hhead hnext) (ih hxs hlast)

theorem sameList_append (first second others : List Node) :
    sameList (first ++ second) others =
      (sameList first (others.take first.length) &&
        sameList second (others.drop first.length)) := by
  induction first generalizing others with
  | nil => simp [sameList]
  | cons node rest ih =>
      cases others with
      | nil => rfl
      | cons other others => simp [sameList, ih, Bool.and_assoc]

namespace Node.Refill

/-- A slot that held the same takes what it is given. -/
theorem many_of_same {old new : List Node} (hsame : sameList old new = true) (rest : List Node) :
    many old (new ++ rest) = (new, rest) := by
  rw [many_apply, (sameList_iff.mp hsame).length_eq, List.take_left, List.drop_left]

theorem opt_of_same {old new : Option Node} (hsame : sameOption old new = true)
    (rest : List Node) : opt old (new.toList ++ rest) = (new, rest) := by
  rcases sameOption_iff.mp hsame with _ | _
  · rfl
  · rfl

theorem arms_of_same {old new : List CaseWhen} (hsame : sameWhens old new = true)
    (rest : List Node) : arms old (new.flatMap CaseWhen.nodes ++ rest) = (new, rest) := by
  rw [sameWhens_iff] at hsame
  induction hsame with
  | nil => rfl
  | @cons w v old new harm _ ih =>
      have hlocation := (CaseWhen.parts_of_same harm).right.right
      simp only [List.flatMap_cons, CaseWhen.nodes, List.cons_append, List.nil_append, arms_cons,
        one_cons, ih, hlocation]
      cases v
      rfl

end Node.Refill

theorem sameList_append_append {first others : List Node} (hfirst : sameList first others = true)
    (second rest : List Node) :
    sameList (first ++ second) (others ++ rest) = sameList second rest := by
  rw [sameList_append, (sameList_iff.mp hfirst).length_eq, List.take_left, List.drop_left, hfirst,
    Bool.true_and]

theorem sameList_toList {slot other : Option Node} (hsame : sameOption slot other = true) :
    sameList slot.toList other.toList = true := by
  rcases sameOption_iff.mp hsame with hnode | _
  · exact sameList_iff.mpr (.cons hnode .nil)
  · rfl

theorem sameList_arms {whens others : List CaseWhen} (hsame : sameWhens whens others = true) :
    sameList (whens.flatMap CaseWhen.nodes) (others.flatMap CaseWhen.nodes) = true := by
  rw [sameWhens_iff] at hsame
  induction hsame with
  | nil => rfl
  | cons harm _ ih =>
      rcases CaseWhen.parts_of_same harm with ⟨hexpr, hresult, _⟩
      simp [CaseWhen.nodes, sameList, hexpr, hresult, ih]

theorem sameList_results {whens others : List CaseWhen} (hsame : sameWhens whens others = true) :
    sameList (whens.map CaseWhen.result) (others.map CaseWhen.result) = true := by
  rw [sameList_iff, List.forall₂_map_left_iff, List.forall₂_map_right_iff]
  apply (sameWhens_iff.mp hsame).imp
  intro w v harm
  exact (CaseWhen.parts_of_same harm).right.left

open Node.Refill in
theorem Query.parts_of_same {q other : Query} (hsame : q.same other = true) (rest : List Node) :
    q.refillSlots (other.slots ++ rest) = (other, rest) ∧
      sameList q.slots other.slots = true := by
  cases q
  cases other
  simp only [same, Bool.and_eq_true, beq_iff_eq] at hsame
  simp [refillSlots, slots, many_of_same, opt_of_same, sameList_append_append, sameList_toList,
    hsame]

open Node.Refill in
theorem RteKind.parts_of_same {kind other : RteKind} (hsame : kind.same other = true)
    (rest : List Node) :
    kind.refill .everything (other.slots ++ rest) = (other, rest) ∧
      sameList kind.slots other.slots = true := by
  unfold RteKind.same at hsame
  split at hsame
  case h_6 =>
    cases beq_iff_eq.mp hsame
    exact ⟨rfl, rfl⟩
  case h_7 => cases hsame
  all_goals
    simp only [Bool.and_eq_true, beq_iff_eq] at hsame
    simp [refill, slots, Scope.everything, many_of_same, opt_of_same, sameList, sameList_toList,
      hsame]

open Node.Refill in
theorem RangeTblEntry.parts_of_same {entry other : RangeTblEntry}
    (hsame : entry.same other = true) (rest : List Node) :
    entry.refill .everything (other.slots ++ rest) = (other, rest) ∧
      sameList entry.slots other.slots = true := by
  cases entry
  cases other
  simp only [same, Bool.and_eq_true, beq_iff_eq] at hsame
  have hkind := RteKind.parts_of_same hsame.left.left
  simp [refill, slots, many_of_same, (hkind _).left, sameList_append_append (hkind []).right, hsame]

namespace Node

open Refill in
/-- Nodes that are the same differ in their slots only, and these hold the same. -/
theorem parts_of_same {node other : Node} (hconst : node.tag ≠ .const)
    (hsame : node.same other = true) (rest : List Node) :
    node.refillSlots (other.slots ++ rest) = (other, rest) ∧
      sameList node.slots other.slots = true := by
  cases node with
  | const data => exact absurd rfl hconst
  | query q =>
      unfold Node.same at hsame
      split at hsame
      · have hparts := Query.parts_of_same hsame rest
        simp [refillSlots, slots, hparts]
      · cases hsame
  | rangeTblEntry entry =>
      unfold Node.same at hsame
      split at hsame
      · have hparts := RangeTblEntry.parts_of_same hsame rest
        simp [refillSlots, slots, hparts]
      · cases hsame
  | list items =>
      unfold Node.same at hsame
      split at hsame
      · simp [refillSlots, refill, slots, many_of_same, hsame]
      · cases hsame
  | _ =>
      unfold Node.same at hsame
      split at hsame
      · -- whatever is no slot has been found equal
        simp only [Bool.and_eq_true, beq_iff_eq] at hsame
        simp [refillSlots, refill, slots, many_of_same, opt_of_same, arms_of_same, sameList,
          sameList_append_append, sameList_toList, sameList_arms, hsame]
      · cases hsame

end Node

namespace Node.Refill

/-- A slot that takes the same holds the same. -/
theorem same_one {old : Node} {supply : List Node}
    (hsame : sameList [old] (supply.take 1) = true) : old.same (one old supply).1 = true := by
  cases supply with
  | nil => cases hsame
  | cons node rest => simpa [sameList] using hsame

theorem same_opt {old : Option Node} {supply : List Node}
    (hsame : sameList old.toList (supply.take old.toList.length) = true) :
    sameOption old (opt old supply).1 = true := by
  cases old with
  | none => rfl
  | some node => exact same_one hsame

theorem same_arms {old : List CaseWhen} {supply : List Node}
    (hsame : sameList (old.flatMap CaseWhen.nodes)
      (supply.take (old.flatMap CaseWhen.nodes).length) = true) :
    sameWhens old (arms old supply).1 = true := by
  induction old generalizing supply with
  | nil => rfl
  | cons w old ih =>
      match supply with
      | [] => cases hsame
      | [_] => simp [CaseWhen.nodes, sameList] at hsame
      | first :: second :: rest =>
          rcases w with ⟨expr, result, location⟩
          simp only [List.flatMap_cons, CaseWhen.nodes, List.cons_append, List.nil_append,
            List.length_cons, List.take_succ_cons, sameList, Bool.and_eq_true] at hsame
          rcases hsame with ⟨hexpr, hresult, hrest⟩
          simp [arms_cons, sameWhens, CaseWhen.same, hexpr, hresult, ih hrest]

end Node.Refill

open Node.Refill in
theorem Query.same_refillSlots {q : Query} {supply : List Node}
    (hsame : sameList (q.slots ++ []) supply = true) :
    q.same (q.refillSlots supply).1 = true := by
  cases q
  simp only [slots, List.append_assoc, sameList_append, Bool.and_eq_true, List.drop_drop] at hsame
  simp only [same, refillSlots, bind_apply, pure_apply, many_apply, opt_rest, List.drop_drop,
    same_opt, hsame, beq_self_eq_true, Bool.and_self]

open Node.Refill in
theorem RteKind.same_refill {kind : RteKind} {supply : List Node}
    (hsame : sameList kind.slots (supply.take kind.slots.length) = true) :
    kind.same (kind.refill .everything supply).1 = true := by
  cases kind with
  | subquery => exact Bool.and_eq_true_iff.mpr ⟨same_one hsame, beq_self_eq_true _⟩
  | cte => exact beq_self_eq_true _
  | _ =>
      rw [slots] at hsame
      simp [refill, Scope.everything, RteKind.same, many_apply, same_opt, hsame]

open Node.Refill in
theorem RangeTblEntry.same_refill {entry : RangeTblEntry} {supply : List Node}
    (hsame : sameList (entry.slots ++ []) supply = true) :
    entry.same (entry.refill .everything supply).1 = true := by
  cases entry with
  | mk kind header securityQuals =>
      simp only [slots, List.append_assoc, sameList_append, Bool.and_eq_true] at hsame
      have hlength : (kind.contents .everything).length <= supply.length := by
        have htaken := (sameList_iff.mp hsame.left).length_eq
        rw [List.length_take] at htaken
        rw [RteKind.contents_everything]
        omega
      have hrest := (RteKind.contents_refill .everything kind hlength).right
      rw [RteKind.contents_everything] at hrest
      simp [same, refill, many_apply, RteKind.same_refill hsame.left, hrest, hsame.right.left]

namespace Node

open Refill in
/-- A node whose slots take the same is the same.  With an empty list at the end, all slots
are split off from the supply in one way. -/
theorem same_withSlots {node : Node} (hconst : node.tag ≠ .const) {supply : List Node}
    (hsame : sameList (node.slots ++ []) supply = true) :
    node.same (node.withSlots supply) = true := by
  cases node with
  | const data => exact absurd rfl hconst
  | query q => exact Query.same_refillSlots hsame
  | rangeTblEntry entry => exact RangeTblEntry.same_refill hsame
  | joinExpr data left right quals =>
      -- two single slots in a row are written as one list, so they are taken apart first
      have hslots : sameList ([left] ++ ([right] ++ (quals.toList ++ []))) supply = true := hsame
      unfold Node.same
      simp only [sameList_append, Bool.and_eq_true, List.length_singleton, List.drop_drop] at hslots
      simp only [withSlots, refillSlots, refill, bind_apply, pure_apply, one_rest, List.drop_drop,
        same_one, same_opt, hslots, beq_self_eq_true, Bool.and_self]
  | setOperationStmt data left right groupClauses =>
      have hslots : sameList ([left] ++ ([right] ++ (groupClauses ++ []))) supply = true := hsame
      unfold Node.same
      simp only [sameList_append, Bool.and_eq_true, List.length_singleton, List.drop_drop] at hslots
      simp only [withSlots, refillSlots, bind_apply, pure_apply, many_apply, one_rest,
        List.drop_drop, same_one, hslots, beq_self_eq_true, Bool.and_self]
  | _ =>
      unfold Node.same
      simp only [slots, List.append_assoc, sameList_append, Bool.and_eq_true, List.length_cons,
        List.length_nil, Nat.zero_add, List.drop_drop] at hsame
      simp only [withSlots, refillSlots, refill, bind_apply, pure_apply, many_apply, one_rest,
        opt_rest, arms_rest, List.drop_drop, same_one, same_opt, same_arms, hsame,
        beq_self_eq_true, Bool.and_self]

/-- What a comparison finds out about any node but a constant. -/
theorem same_iff {node other : Node} (hconst : node.tag ≠ .const) :
    node.same other = true <->
      node.withSlots other.slots = other ∧
        List.Forall₂ (fun child new => child.same new = true) node.slots other.slots := by
  rw [← sameList_iff]
  constructor
  · intro hsame
    rcases parts_of_same hconst hsame [] with ⟨hrefill, hslots⟩
    rw [List.append_nil] at hrefill
    exact ⟨congrArg Prod.fst hrefill, hslots⟩
  · rintro ⟨hother, hslots⟩
    rw [← hother]
    apply same_withSlots hconst
    rwa [List.append_nil]

theorem same_const_iff {data : Const} {other : Node} :
    (Node.const data).same other = true <->
      exists value : Datum, other = .const { data with value } ∧ data.value.same value = true := by
  constructor
  · intro hsame
    cases other with
    | const new =>
        rcases Const.same_iff.mp hsame with ⟨hnew, hvalue⟩
        exact ⟨new.value, congrArg Node.const hnew, hvalue⟩
    | _ => cases hsame
  · rintro ⟨value, rfl, hvalue⟩
    exact Const.same_iff.mpr ⟨rfl, hvalue⟩

theorem caption_withSlots (node : Node) (supply : List Node) :
    (node.withSlots supply).caption = node.caption := by
  cases node <;> rfl

/-- Cases by the way in which a node is compared. -/
@[elab_as_elim] theorem byConst {motive : Node -> Prop}
    (const : forall data : Const, motive (.const data))
    (other : forall node : Node, node.tag ≠ .const -> motive node) (node : Node) :
    motive node := by
  by_cases hconst : node.tag = .const
  · cases node with
    | const data => exact const data
    | _ => cases hconst
  · exact other node hconst

/-- A label tells nothing of the values that are compared as numbers. -/
theorem caption_of_same {node other : Node} (hsame : node.same other = true) :
    other.caption = node.caption := by
  induction node using byConst with
  | const data =>
      rcases same_const_iff.mp hsame with ⟨value, rfl, hvalue⟩
      rw [caption, caption, detail?, detail?, Datum.int4?_of_same hvalue]
      rfl
  | other node hconst => rw [← ((same_iff hconst).mp hsame).left, caption_withSlots]

theorem tag_of_same {node other : Node} (hsame : node.same other = true) :
    other.tag = node.tag :=
  congrArg Prod.fst (caption_of_same hsame)

/-!
# An equivalence
-/

/-- No constant anywhere in the tree is a floating-point number. -/
def Exact (node : Node) : Prop :=
  forall data : Const, Node.const data ∈ node.stored -> data.value.IsExact

theorem Exact.of_mem_slots {node child : Node} (hexact : node.Exact)
    (hchild : child ∈ node.slots) : child.Exact := by
  intro data hdata
  exact hexact data (mem_stored_of_mem_slots hchild hdata)

theorem Exact.value {data : Const} (hexact : (Node.const data).Exact) : data.value.IsExact :=
  hexact data (mem_stored_self _)

/-- Induction over everything that a tree holds. -/
@[elab_as_elim] theorem inductionOnSlots {motive : Node -> Prop}
    (const : forall data : Const, motive (.const data))
    (step : forall node : Node, node.tag ≠ .const ->
      (forall child : Node, child ∈ node.slots -> motive child) -> motive node)
    (node : Node) : motive node := by
  have hbelow : forall child : Node, child ∈ node.slots -> motive child := by
    intro child hchild
    exact inductionOnSlots const step child
  induction node using byConst with
  | const data => exact const data
  | other node hconst => exact step node hconst hbelow
termination_by sizeOf node
decreasing_by exact sizeOf_lt_of_mem_slots hchild

theorem same_self (node : Node) (hexact : node.Exact) : node.same node = true := by
  induction node using inductionOnSlots with
  | const data => exact same_const_iff.mpr ⟨_, rfl, Datum.same_self hexact.value⟩
  | step node hconst ih =>
      rw [same_iff hconst, List.forall₂_same]
      constructor
      · exact node.withSlots_slots
      · intro child hchild
        exact ih child hchild (hexact.of_mem_slots hchild)

theorem same_symm {node other : Node} (hexact : node.Exact) (hsame : node.same other = true) :
    other.same node = true := by
  induction node using inductionOnSlots generalizing other with
  | const data =>
      rcases same_const_iff.mp hsame with ⟨value, rfl, hvalue⟩
      exact same_const_iff.mpr ⟨_, rfl, Datum.same_symm hexact.value hvalue⟩
  | step node hconst ih =>
      rcases (same_iff hconst).mp hsame with ⟨hother, hslots⟩
      have hlength := hslots.length_eq
      -- the second node is compared in the same way, since it is of the same kind
      rw [← tag_of_same hsame] at hconst
      rw [same_iff hconst]
      constructor
      · calc other.withSlots node.slots
            = (node.withSlots other.slots).withSlots node.slots := by rw [hother]
          _ = node.withSlots node.slots := withSlots_withSlots hlength.symm rfl
          _ = node := node.withSlots_slots
      · apply List.Forall₂.flip
        have hmembers := (List.forall₂_and_left _ _).mpr ⟨fun _ hchild => hchild, hslots⟩
        apply hmembers.imp
        rintro child new ⟨hchild, hnew⟩
        exact ih child hchild (hexact.of_mem_slots hchild) hnew

theorem same_trans {node other third : Node} (hexact : node.Exact)
    (hfirst : node.same other = true) (hsecond : other.same third = true) :
    node.same third = true := by
  induction node using inductionOnSlots generalizing other third with
  | const data =>
      rcases same_const_iff.mp hfirst with ⟨value, rfl, hvalue⟩
      rcases same_const_iff.mp hsecond with ⟨last, rfl, hlast⟩
      exact same_const_iff.mpr ⟨_, rfl, Datum.same_trans hexact.value hvalue hlast⟩
  | step node hconst ih =>
      rcases (same_iff hconst).mp hfirst with ⟨hother, hslots⟩
      rw [same_iff (tag_of_same hfirst ▸ hconst)] at hsecond
      rcases hsecond with ⟨hthird, hnext⟩
      rw [same_iff hconst]
      constructor
      · calc node.withSlots third.slots
            = (node.withSlots other.slots).withSlots third.slots := by
              rw [withSlots_withSlots hslots.length_eq.symm]
              rw [hslots.length_eq, hnext.length_eq]
          _ = third := by rw [hother, hthird]
      · apply forall₂_trans_of_mem _ hslots hnext
        intro child hchild new last hnew hlast
        exact ih child hchild (hexact.of_mem_slots hchild) hnew hlast

end Node

end QueryTree
