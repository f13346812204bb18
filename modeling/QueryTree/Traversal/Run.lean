import QueryTree.Traversal.Control

/-!
# Running a traversal

What each building block of a traversal does to the nesting and the state,
written out.  A guarded step gives its level back on every path.
-/

namespace QueryTree
namespace Traversal

variable {σ ε α β : Type}

/-!
# Sequencing
-/

@[simp] theorem runFrom_pure (x : α) (nesting : Nesting) (state : σ) :
    runFrom (pure x : Traversal σ ε α) nesting state = (.ok x, nesting, state) :=
  rfl

theorem runFrom_bind (first : Traversal σ ε α) (next : α -> Traversal σ ε β)
    (nesting : Nesting) (state : σ) :
    runFrom (first >>= next) nesting state =
      match runFrom first nesting state with
      | (.ok x, after, state) => runFrom (next x) after state
      | (.error error, after, state) => (.error error, after, state) := by
  simp only [runFrom, ExceptT.run_bind, StateT.run_bind]
  cases first.run.run (nesting, state) with
  | mk result rest =>
      cases result with
      | ok x => rfl
      | error error => rfl

/-- A handler goes on from where the computation failed. -/
theorem runFrom_tryCatch (computation : Traversal σ ε α) (handle : ε -> Traversal σ ε α)
    (nesting : Nesting) (state : σ) :
    runFrom (tryCatch computation handle) nesting state =
      match runFrom computation nesting state with
      | (.ok x, after) => (.ok x, after)
      | (.error error, after, state) => runFrom (handle error) after state := by
  cases hrun : runFrom computation nesting state with
  | mk result rest =>
      have hcomputation : computation (nesting, state) = (result, rest) := hrun
      cases result with
      | ok x =>
          simp only [runFrom, tryCatch, tryCatchThe, MonadExceptOf.tryCatch, ExceptT.tryCatch,
            ExceptT.run, ExceptT.mk, StateT.run, bind, StateT.bind, hcomputation]
          rfl
      | error error =>
          simp only [runFrom, tryCatch, tryCatchThe, MonadExceptOf.tryCatch, ExceptT.tryCatch,
            ExceptT.run, ExceptT.mk, StateT.run, bind, StateT.bind, hcomputation]

/-!
# Levels
-/

theorem runFrom_enter [OfTreeError ε] (nesting : Nesting) (state : σ) :
    runFrom (enter : Traversal σ ε Unit) nesting state =
      match nesting.enter? with
      | .ok deeper => (.ok (), deeper, state)
      | .error error => (.error (OfTreeError.ofTreeError error), nesting, state) := by
  have hrun :
      runFrom (enter : Traversal σ ε Unit) nesting state =
        runFrom (match nesting.enter? with
          | .ok deeper => setNesting deeper
          | .error error => raise error : Traversal σ ε Unit) nesting state :=
    rfl
  rw [hrun]
  cases nesting.enter? with
  | ok deeper => rfl
  | error error => rfl

/-- The level is given back however the step ends. -/
theorem runFrom_tryFinally_leave (step : Traversal σ ε α) (nesting : Nesting) (state : σ) :
    runFrom (tryFinally step leave) nesting state =
      ((runFrom step nesting state).1, (runFrom step nesting state).2.1.leave,
        (runFrom step nesting state).2.2) := by
  cases hstep : runFrom step nesting state with
  | mk result rest =>
      have hrun : step (nesting, state) = (result, rest) := hstep
      cases result with
      | ok x =>
          simp only [runFrom, tryFinally, tryFinally', ExceptT.run, StateT.run, bind, StateT.bind,
            Functor.map, ExceptT.map, ExceptT.mk, hrun, pure]
          rfl
      | error error =>
          simp only [runFrom, tryFinally, tryFinally', ExceptT.run, StateT.run, bind, StateT.bind,
            Functor.map, ExceptT.map, ExceptT.mk, hrun, pure]
          rfl

/-- A guarded step runs one level deeper and gives the level back, or does not
run at all. -/
theorem runFrom_guarded [OfTreeError ε] (step : Traversal σ ε α) (nesting : Nesting)
    (state : σ) :
    runFrom (guarded step) nesting state =
      match nesting.enter? with
      | .ok deeper =>
          ((runFrom step deeper state).1, (runFrom step deeper state).2.1.leave,
            (runFrom step deeper state).2.2)
      | .error error => (.error (OfTreeError.ofTreeError error), nesting, state) := by
  rw [guarded, runFrom_bind, runFrom_enter]
  cases nesting.enter? with
  | error error => rfl
  | ok deeper => exact runFrom_tryFinally_leave step deeper state

/-!
# Recursion
-/

/-- A recursion gets as many levels as remain, and one for the start. -/
theorem runFrom_recurse [OfTreeError ε] (step : (α -> Traversal σ ε β) -> α -> Traversal σ ε β)
    (input : α) (nesting : Nesting) (state : σ) :
    runFrom (recurse step input) nesting state =
      runFrom (recurse.bounded step (nesting.remaining + 1) input) nesting state :=
  rfl

/-- One level deeper, what is left of the levels is what a recursion from there gets. -/
theorem runFrom_bounded [OfTreeError ε] (step : (α -> Traversal σ ε β) -> α -> Traversal σ ε β)
    {depth limit : Nat} (hroom : depth < limit) (input : α) (state : σ) :
    runFrom (recurse.bounded step (limit - depth) input) { depth := depth + 1, limit } state =
      runFrom (recurse step input) { depth := depth + 1, limit } state := by
  have hlevels : limit - depth = limit - (depth + 1) + 1 := by omega
  rw [hlevels]
  rfl

/-!
# Lookups
-/

/-- A lookup in the middle of a computation goes on from its nesting, and leaves its state
alone. -/
theorem runFrom_ofLookup [OfTreeError ε] (lookup : Lookup α) (nesting : Nesting) (state : σ) :
    runFrom (ofLookup lookup : Traversal σ ε α) nesting state =
      match runFrom lookup nesting () with
      | (.ok answer, after, _) => (.ok answer, after, state)
      | (.error error, after, _) => (.error (OfTreeError.ofTreeError error), after, state) := by
  have hnesting : runFrom (Traversal.nesting : Traversal σ ε Nesting) nesting state =
      (.ok nesting, nesting, state) :=
    rfl
  rw [ofLookup, runFrom_bind, hnesting]
  simp only [runFrom]
  rcases lookup.run.run (nesting, ()) with ⟨outcome, after⟩
  cases outcome with
  | ok answer => rfl
  | error error => rfl

/-!
# Stopping early
-/

theorem runFrom_andThen (first second : Traversal σ ε Control) (nesting : Nesting) (state : σ) :
    runFrom (andThen first second) nesting state =
      match runFrom first nesting state with
      | (.ok .proceed, after, state) => runFrom second after state
      | stopped => stopped := by
  rw [andThen, runFrom_bind]
  cases runFrom first nesting state with
  | mk result rest =>
      cases result with
      | ok control => cases control <;> rfl
      | error error => rfl

/-!
# Answers

What a run that gives an answer tells of its parts.
-/

theorem runFrom_bind_eq_ok {first : Traversal σ ε α} {next : α -> Traversal σ ε β}
    {nesting : Nesting} {state : σ} {answer : β} {after : Nesting × σ} :
    runFrom (first >>= next) nesting state = (.ok answer, after) <->
      exists (x : α) (between : Nesting × σ), runFrom first nesting state = (.ok x, between) ∧
        runFrom (next x) between.1 between.2 = (.ok answer, after) := by
  rw [runFrom_bind]
  rcases runFrom first nesting state with ⟨outcome, between⟩
  constructor
  · intro hrun
    cases outcome with
    | error error => cases hrun
    | ok x => exact ⟨x, between, rfl, hrun⟩
  · rintro ⟨x, _, hfirst, hnext⟩
    cases hfirst
    exact hnext

theorem runFrom_guarded_eq_ok [OfTreeError ε] {step : Traversal σ ε α} {nesting : Nesting}
    {state : σ} {answer : α} {after : Nesting × σ} :
    runFrom (guarded step) nesting state = (.ok answer, after) <->
      nesting.depth + 1 <= nesting.limit ∧
        exists between : Nesting × σ,
          runFrom step { nesting with depth := nesting.depth + 1 } state = (.ok answer, between) ∧
            after = (between.1.leave, between.2) := by
  rw [runFrom_guarded, Nesting.enter?]
  by_cases hlimit : nesting.depth + 1 <= nesting.limit
  · simp only [if_pos hlimit]
    rcases hstep : runFrom step { nesting with depth := nesting.depth + 1 } state with
      ⟨outcome, between⟩
    constructor
    · intro hrun
      cases hrun
      exact ⟨hlimit, between, rfl, rfl⟩
    · rintro ⟨_, _, hanswer, rfl⟩
      cases hanswer
      rfl
  · simp only [if_neg hlimit]
    constructor
    · intro hrun
      cases hrun
    · intro hrun
      exact absurd hrun.left hlimit

theorem length_of_mapM_eq_ok {step : α -> Traversal σ ε β} {xs : List α} {nesting : Nesting}
    {state : σ} {answers : List β} {after : Nesting × σ}
    (hrun : runFrom (xs.mapM step) nesting state = (.ok answers, after)) :
    answers.length = xs.length := by
  induction xs generalizing nesting state answers after with
  | nil =>
      cases hrun
      rfl
  | cons x rest ih =>
      rw [List.mapM_cons, runFrom_bind_eq_ok] at hrun
      rcases hrun with ⟨y, between, _hfirst, hrest⟩
      rcases runFrom_bind_eq_ok.mp hrest with ⟨ys, _, hys, hanswers⟩
      cases hanswers
      rw [List.length_cons, List.length_cons, ih hys]

end Traversal
end QueryTree
