import QueryTree.Proofs.WalkOrder

/-!
# Callbacks as replies

A callback that cannot look into the traversal around it is a reply: it gets what it
is shown and the depth, keeps a state of its own, and answers or fails.  A reply can
be made to write down what it is shown without changing its answers.  A walk that
only makes notes of what it is shown succeeds when every step of its itinerary can be
taken; one that writes down the nodes and their depths shows its trace.
-/

namespace QueryTree

open Traversal Step

variable {ν σ ε α : Type}

/-- An answer to what is shown, from the depth at which that happens and from a state.  It
gives the next state, and may fail. -/
abbrev Reply (ν σ ε α : Type) := ν -> Nat -> σ -> Except ε α × σ

namespace Reply

/-- The reply as a step of a traversal. -/
def run (reply : Reply ν σ ε α) (shown : ν) : Traversal σ ε α :=
  ExceptT.mk fun (nesting, state) =>
    ((reply shown nesting.depth state).1, nesting, (reply shown nesting.depth state).2)

/-- The same reply, which also writes down what it is shown and at which depth. -/
def logged (reply : Reply ν σ ε α) : Reply ν (σ × List (ν × Nat)) ε α :=
  fun shown depth (state, log) =>
    ((reply shown depth state).1, (reply shown depth state).2, log ++ [(shown, depth)])

/-- A fixed answer to everything that can be shown, with a list of what was. -/
def noted (answer : ν -> α) : Reply ν (List (ν × Nat)) ε α :=
  fun shown depth log => (.ok (answer shown), log ++ [(shown, depth)])

/-- Go on, whatever is shown, and write it down. -/
def chart : Reply Node (List (Node × Nat)) ε Control :=
  noted fun _ => .proceed

theorem balanced_run (reply : Reply ν σ ε α) (shown : ν) : (reply.run shown).Balanced := by
  intro nesting state
  rfl

end Reply

/-!
# Callbacks that go on
-/

/-- Whatever it is shown, the callback makes a note of it in its state and goes on. -/
def Notes (note : σ -> ν × Nat -> σ) (callback : ν -> Traversal σ ε Control) : Prop :=
  forall (node : ν) (nesting : Nesting) (state : σ),
    runFrom (callback node) nesting state =
      (.ok .proceed, nesting, note state (node, nesting.depth))

theorem Notes.balanced {note : σ -> ν × Nat -> σ} {callback : ν -> Traversal σ ε Control}
    (hnotes : Notes note callback) (node : ν) : (callback node).Balanced := by
  intro nesting state
  rw [hnotes node nesting state]

theorem notes_proceed :
    Notes (fun state _ => state) (fun _ => pure .proceed : ν -> Traversal σ ε Control) := by
  intro node nesting state
  rfl

theorem notes_chart :
    Notes (fun log visit => log ++ [visit]) (Reply.chart : Reply _ _ ε _).run := by
  intro node nesting log
  rfl

/-!
# Taking every step
-/

/-- The step can be taken, as far as it is not for a callback to decide. -/
def Step.Passes (limit : Nat) : Step ν -> Prop
  | .enter depth => depth <= limit
  | .visit _ _ => True
  | .refuse _ => False

variable [OfTreeError ε]

namespace Notes

section

variable {note : σ -> ν × Nat -> σ} {callback : ν -> Traversal σ ε Control}
  (hnotes : Notes note callback)

include hnotes

theorem replay_of_passes {limit : Nat} {steps : List (Step ν)}
    (hpasses : forall step : Step ν, step ∈ steps -> step.Passes limit) (state : σ) :
    replay callback limit steps state = (.ok .proceed, (shown steps).foldl note state) := by
  induction steps generalizing state with
  | nil => rfl
  | cons step rest ih =>
      rw [List.forall_mem_cons] at hpasses
      cases step with
      | enter depth =>
          have hdepth : depth <= limit := hpasses.left
          rw [replay, if_pos hdepth, shown_enter]
          exact ih hpasses.right state
      | visit node depth =>
          rw [replay, hnotes, shown_visit, List.foldl_cons]
          exact ih hpasses.right _
      | refuse error => cases hpasses.left

theorem passes_of_replay_ok {limit : Nat} {steps : List (Step ν)} {state : σ} {control : Control}
    (hreplay : (replay callback limit steps state).1 = .ok control) :
    forall step : Step ν, step ∈ steps -> step.Passes limit := by
  induction steps generalizing state with
  | nil =>
      intro step hstep
      cases hstep
  | cons step rest ih =>
      cases step with
      | enter depth =>
          rw [replay] at hreplay
          split at hreplay
          · rename_i hdepth
            exact List.forall_mem_cons.mpr ⟨hdepth, ih hreplay⟩
          · cases hreplay
      | visit node depth =>
          rw [replay, hnotes] at hreplay
          exact List.forall_mem_cons.mpr ⟨trivial, ih hreplay⟩
      | refuse error => cases hreplay

end

/-- A walk that only makes notes succeeds when its itinerary can be taken, and has then made
a note of each node on its trace. -/
theorem runFrom_walkTree {note : σ -> Node × Nat -> σ} {callback : Visitor σ ε}
    (hnotes : Notes note callback) {scope : Scope} {node : Node} {nesting : Nesting} {state : σ}
    {control : Control} {after : Nesting × σ} :
    runFrom (walkTree callback scope node) nesting state = (.ok control, after) <->
      (forall step : Step Node, step ∈ node.itinerary scope nesting.depth ->
        step.Passes nesting.limit) ∧
      control = .proceed ∧
      after = (nesting, (node.trace scope nesting.depth).foldl note state) := by
  rw [performs_walkTree hnotes.balanced scope node nesting state]
  constructor
  · intro hrun
    have hpasses := hnotes.passes_of_replay_ok (congrArg Prod.fst hrun)
    rw [hnotes.replay_of_passes hpasses] at hrun
    cases hrun
    exact ⟨hpasses, rfl, rfl⟩
  · rintro ⟨hpasses, rfl, rfl⟩
    rw [hnotes.replay_of_passes hpasses]
    rfl

end Notes

/-!
# Charting a walk
-/

/-- Writing down what is shown, one after the other, makes a list of it. -/
theorem foldl_append_singleton {β : Type} (f : α -> β) (xs : List α) (log : List β) :
    xs.foldl (fun log x => log ++ [f x]) log = log ++ xs.map f := by
  rw [List.foldl_append_eq_append, ← List.flatMap_def, ← List.map_eq_flatMap]

theorem replay_chart {limit : Nat} {steps : List (Step Node)}
    (hpasses : forall step : Step Node, step ∈ steps -> step.Passes limit)
    (log : List (Node × Nat)) :
    replay (Reply.chart : Reply _ _ ε _).run limit steps log =
      (.ok .proceed, log ++ shown steps) := by
  rw [notes_chart.replay_of_passes hpasses, foldl_append_singleton fun visit => visit,
    List.map_id']

/-- A walk that writes down what it is shown succeeds when its itinerary can be taken, and
has then written down its trace. -/
theorem runFrom_walkTree_chart {scope : Scope} {node : Node} {nesting : Nesting}
    {control : Control} {after : Nesting} {log : List (Node × Nat)} :
    runFrom (walkTree (Reply.chart : Reply _ _ ε _).run scope node) nesting [] =
        (.ok control, after, log) <->
      (forall step : Step Node, step ∈ node.itinerary scope nesting.depth ->
        step.Passes nesting.limit) ∧
      control = .proceed ∧ after = nesting ∧ log = node.trace scope nesting.depth := by
  rw [notes_chart.runFrom_walkTree, foldl_append_singleton fun visit => visit, List.map_id',
    List.nil_append, Prod.mk.injEq]

end QueryTree
