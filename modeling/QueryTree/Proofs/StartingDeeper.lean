import QueryTree.Proofs.Congruence

/-!
# Starting deeper

A lookup that starts further down has fewer levels left.  It runs out of them, or it ends
as it does from less deep, be it with an answer or with an error.  The building blocks
keep this up, so it holds of every lookup.
-/

namespace QueryTree

open Traversal

variable {α : Type}

/-- The answer of a lookup that has run out of levels. -/
def Lookup.cutOff (limit : Nat) : Except TreeError α :=
  .error (.stackDepthExceeded (limit + 1) limit)

open Lookup

/-- From so many levels further down, the first lookup runs out of levels, or it ends as the
second one does from here. -/
def Rises (levels limit : Nat) (α : Type) (depth : Nat) (deep other : Lookup α) : Prop :=
  depth + levels <= limit ->
    runFrom deep { depth := depth + levels, limit } () =
        (cutOff limit, { depth := depth + levels, limit }, ()) ∨
      exists outcome : Except TreeError α,
        runFrom deep { depth := depth + levels, limit } () =
            (outcome, { depth := depth + levels, limit }, ()) ∧
          runFrom other { depth, limit } () = (outcome, { depth, limit }, ())

namespace Rises

variable {β : Type} {levels limit depth : Nat}

theorem bind {deep other : Lookup α} {next otherNext : α -> Lookup β}
    (hfirst : Rises levels limit α depth deep other)
    (hnext : forall x : α, Rises levels limit β depth (next x) (otherNext x)) :
    Rises levels limit β depth (deep >>= next) (other >>= otherNext) := by
  intro hlimit
  rw [runFrom_bind, runFrom_bind]
  rcases hfirst hlimit with hcut | ⟨outcome, hdeep, hother⟩
  · rw [hcut]
    exact Or.inl rfl
  · rw [hdeep, hother]
    cases outcome with
    | error error => exact Or.inr ⟨.error error, rfl, rfl⟩
    | ok x => exact hnext x hlimit

theorem guarded {deep other : Lookup α}
    (hstep : Rises levels limit α (depth + 1) deep other) :
    Rises levels limit α depth (guarded deep) (guarded other) := by
  intro hlimit
  rw [runFrom_guarded, runFrom_guarded, Nesting.enter?, Nesting.enter?]
  by_cases hlevel : depth + levels + 1 <= limit
  · have hdeeper : depth + 1 + levels = depth + levels + 1 := Nat.add_right_comm depth 1 levels
    have hother : depth + 1 <= limit := by omega
    simp only [if_pos hlevel, if_pos hother]
    rcases hstep (by omega) with hcut | ⟨outcome, hdeep, hless⟩
    · rw [hdeeper] at hcut
      rw [hcut]
      exact Or.inl rfl
    · rw [hdeeper] at hdeep
      rw [hdeep, hless]
      exact Or.inr ⟨outcome, rfl, rfl⟩
  · -- the level that is missing is the first one beyond the limit
    have hlast : depth + levels = limit := by omega
    simp only [if_neg hlevel]
    left
    rw [hlast]
    rfl

theorem recurse {step : (α -> Lookup β) -> α -> Lookup β}
    (hstep : forall (visit other : α -> Lookup β) (depth : Nat),
      (forall (x : α) (deeper : Nat), depth < deeper ->
        Rises levels limit β deeper (visit x) (other x)) ->
      forall x : α, Rises levels limit β depth (step visit x) (step other x))
    (input : α) (depth : Nat) :
    Rises levels limit β depth (recurse step input) (recurse step input) := by
  -- the run that starts less deep has the same levels, and some more
  have hbounded : forall (common : Nat) (x : α) (depth : Nat), limit < depth + levels + common ->
      Rises levels limit β depth (recurse.bounded step common x)
        (recurse.bounded step (common + levels) x) := by
    intro common
    induction common with
    | zero =>
        intro x depth hbeyond hlimit
        omega
    | succ common ih =>
        intro x depth hbeyond
        rw [Nat.add_right_comm]
        apply hstep
        intro y deeper hdeeper
        apply ih
        omega
  intro hlimit
  have hremaining : limit - depth + 1 = limit - (depth + levels) + 1 + levels := by omega
  rw [runFrom_recurse, runFrom_recurse]
  simp only [Nesting.remaining]
  rw [hremaining]
  exact hbounded (limit - (depth + levels) + 1) input depth (by omega) hlimit

end Rises

theorem congruence_rises (levels limit : Nat) : Congruence (Rises levels limit) where
  pure _ answer := fun _ => Or.inr ⟨.ok answer, rfl, rfl⟩
  raise _ error := fun _ => Or.inr ⟨.error error, rfl, rfl⟩
  bind := Rises.bind
  guarded := Rises.guarded
  recurse := Rises.recurse

/-- From further down, a lookup runs out of levels or gives the same answer. -/
theorem Lookup.answer_deeper {lookup : Lookup α} {limit depth deeper : Nat}
    (hrises : forall levels : Nat, Rises levels limit α depth lookup lookup)
    (hdepth : depth <= deeper) (hlimit : deeper <= limit) :
    lookup.answer { depth := deeper, limit } = cutOff limit ∨
      lookup.answer { depth := deeper, limit } = lookup.answer { depth, limit } := by
  rcases Nat.exists_eq_add_of_le hdepth with ⟨levels, rfl⟩
  unfold Lookup.answer
  rcases hrises levels hlimit with hcut | ⟨outcome, hdeep, hless⟩
  · exact Or.inl (congrArg Prod.fst hcut)
  · rw [hdeep, hless]
    exact Or.inr rfl

end QueryTree
