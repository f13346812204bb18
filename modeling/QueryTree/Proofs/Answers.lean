import QueryTree.Proofs.Resolvable
import QueryTree.Proofs.Termination

/-!
# Answers of lookups

A lookup leaves the nesting as it found it, so its answer is all that there is to its
run.  An answer that does not come from the limit is the one that the lookup gives from
less deep as well.
-/

namespace QueryTree

open Traversal Lookup

variable {α : Type}

/-!
# Runs and answers
-/

namespace Lookup

theorem runFrom_eq_answer {lookup : Lookup α} (hbalanced : lookup.Balanced) (nesting : Nesting) :
    runFrom lookup nesting () = (lookup.answer nesting, nesting, ()) :=
  Prod.ext rfl (Prod.ext (hbalanced nesting ()) rfl)

/-- In the middle of a computation, a lookup gives its answer and leaves everything else. -/
theorem runFrom_ofLookup_eq_answer {σ ε : Type} [OfTreeError ε] {lookup : Lookup α}
    (hbalanced : lookup.Balanced) (nesting : Nesting) (state : σ) :
    runFrom (ofLookup lookup : Traversal σ ε α) nesting state =
      ((lookup.answer nesting).mapError OfTreeError.ofTreeError, nesting, state) := by
  rw [runFrom_ofLookup, runFrom_eq_answer hbalanced]
  cases lookup.answer nesting with
  | error error => rfl
  | ok x => rfl

theorem answer_bind {β : Type} {first : Lookup α} (hbalanced : first.Balanced)
    (next : α -> Lookup β) (nesting : Nesting) :
    (first >>= next).answer nesting =
      (first.answer nesting).bind fun x => (next x).answer nesting := by
  rw [answer, runFrom_bind, runFrom_eq_answer hbalanced]
  cases first.answer nesting with
  | error error => rfl
  | ok x => rfl

theorem answer_bind_eq_ok {β : Type} {first : Lookup α} (hbalanced : first.Balanced)
    {next : α -> Lookup β} {nesting : Nesting} {y : β} :
    (first >>= next).answer nesting = .ok y <->
      exists x : α, first.answer nesting = .ok x ∧ (next x).answer nesting = .ok y := by
  rw [answer_bind hbalanced]
  cases first.answer nesting with
  | error error =>
      constructor
      · intro hanswer
        cases hanswer
      · rintro ⟨x, hfirst, _⟩
        cases hfirst
  | ok x =>
      constructor
      · intro hanswer
        exact ⟨x, rfl, hanswer⟩
      · rintro ⟨_, hfirst, hanswer⟩
        cases hfirst
        exact hanswer

/-- Every lookup that is put together from the building blocks leaves the nesting as it was. -/
theorem balanced_of_congruence {lookup : Lookup α}
    (hcongruence : forall {related : forall α : Type, Nat -> Lookup α -> Lookup α -> Prop},
      Congruence related -> forall depth : Nat, related α depth lookup lookup) :
    lookup.Balanced := by
  intro nesting state
  have hbound := Nat.le_max_left nesting.limit nesting.depth
  exact (hcongruence (congruence_coincides hbound) nesting.depth (Nat.le_max_right _ _)
    state).right

/-- Before the limit, a rule is asked one level deeper, with the lookup itself for the nodes
below. -/
theorem answer_byRule_eq {rule : (Node -> Lookup α) -> Node -> Lookup α} {depth limit : Nat}
    (hroom : depth < limit) (hbalanced : forall node : Node, (byRule rule node).Balanced)
    {node : Node}
    (hrule : forall visit other : Node -> Lookup α,
      (forall child : Node, Coincides limit limit (depth + 1) (visit child) (other child)) ->
        Coincides limit limit (depth + 1) (rule visit node) (rule other node)) :
    (byRule rule node).answer { depth, limit } =
      (rule (byRule rule) node).answer { depth := depth + 1, limit } := by
  rw [answer_byRule hroom]
  refine congrArg Prod.fst (hrule _ (byRule rule) ?_ hroom ()).left
  intro child _ state
  rw [runFrom_bounded _ hroom]
  exact ⟨rfl, hbalanced child _ state⟩

end Lookup

namespace Node

section

variable (catalog : Catalog) (node : Node)

theorem balanced_exprType : (node.exprType catalog).Balanced :=
  balanced_of_congruence fun hrelated => hrelated.exprType catalog node

theorem balanced_exprTypmod : (node.exprTypmod catalog).Balanced :=
  balanced_of_congruence fun hrelated => hrelated.exprTypmod catalog node

theorem balanced_exprCollation : node.exprCollation.Balanced :=
  balanced_of_congruence fun hrelated => hrelated.exprCollation node

theorem balanced_exprLocation : node.exprLocation.Balanced :=
  balanced_of_congruence fun hrelated => hrelated.exprLocation node

variable {depth limit : Nat} (hroom : depth < limit)

include hroom

theorem answer_exprType :
    (node.exprType catalog).answer { depth, limit } =
      (node.typeWith catalog (exprType catalog)).answer { depth := depth + 1, limit } :=
  answer_byRule_eq hroom (balanced_exprType catalog) fun visit other hbelow =>
    (congruence_coincides Nat.le.refl).typeWith catalog visit other _ hbelow node

theorem answer_exprTypmod :
    (node.exprTypmod catalog).answer { depth, limit } =
      (node.typmodWith (exprType catalog) (exprTypmod catalog)).answer
        { depth := depth + 1, limit } :=
  answer_byRule_eq hroom (balanced_exprTypmod catalog) fun _ _ hbelow =>
    (congruence_coincides Nat.le.refl).typmodWith
      (fun arm => coincides_self (balanced_exprType catalog arm)) hbelow node

theorem answer_exprCollation :
    node.exprCollation.answer { depth, limit } =
      (node.collationWith exprCollation).answer { depth := depth + 1, limit } :=
  answer_byRule_eq hroom balanced_exprCollation fun visit other hbelow =>
    (congruence_coincides Nat.le.refl).collationWith visit other _ hbelow node

end

end Node

/-!
# Answers within the limit
-/

/-- An answer that does not come from the limit is the answer from less deep. -/
theorem Lookup.answer_of_staysWithin {lookup : Lookup α} {limit depth deeper : Nat}
    (hrises : forall levels : Nat, Rises levels limit α depth lookup lookup)
    (hdepth : depth <= deeper) (hlimit : deeper <= limit)
    (hstays : lookup.StaysWithin { depth := deeper, limit }) :
    lookup.answer { depth := deeper, limit } = lookup.answer { depth, limit } := by
  rcases answer_deeper hrises hdepth hlimit with hcut | hsame
  · exact absurd hcut (hstays (limit + 1) limit)
  · exact hsame

/-- A lookup that takes a level for each node needs one to begin with. -/
theorem depth_lt_of_staysWithin {rule : (Node -> Lookup α) -> Node -> Lookup α} {node : Node}
    {depth limit : Nat} (hstays : (byRule rule node).StaysWithin { depth, limit }) :
    depth < limit := by
  by_contra hdepth
  apply hstays (depth + 1) limit
  exact answer_byRule_of_limit_le (Nat.le_of_not_lt hdepth) node

theorem Lookup.staysWithin_of_answer_ok {lookup : Lookup α} {nesting : Nesting} {x : α}
    (hanswer : lookup.answer nesting = .ok x) : lookup.StaysWithin nesting := by
  intro reached bound hcut
  rw [hanswer] at hcut
  cases hcut

theorem depth_lt_of_answer_ok {rule : (Node -> Lookup α) -> Node -> Lookup α} {node : Node}
    {depth limit : Nat} {x : α} (hanswer : (byRule rule node).answer { depth, limit } = .ok x) :
    depth < limit :=
  depth_lt_of_staysWithin (staysWithin_of_answer_ok hanswer)

end QueryTree
