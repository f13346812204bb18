import QueryTree.Proofs.Itinerary
import QueryTree.Traversal.Run

/-!
# A walk follows its itinerary

Whatever its callback does, a walk takes the steps of its itinerary in order until
one of them ends it: the callback stops or fails, a level lies beyond the limit, or
the tree is refused.  Over well-formed range tables and within the limit the walk
is therefore a fold of the callback over the trace.  What steps do is the same for
every kind of tree.
-/

namespace QueryTree

open Traversal Step

variable {ν σ ε α β : Type}

/-!
# Levels given back
-/

/-- The computation leaves a part of the nesting as it found it, however it ends. -/
def Traversal.Keeps {κ : Type} (part : Nesting -> κ) (computation : Traversal σ ε α) : Prop :=
  forall (nesting : Nesting) (state : σ),
    part (runFrom computation nesting state).2.1 = part nesting

/-- The computation leaves the nesting as it found it, however it ends.  So does every
callback that only takes levels by guarded steps. -/
def Traversal.Balanced (computation : Traversal σ ε α) : Prop :=
  forall (nesting : Nesting) (state : σ), (runFrom computation nesting state).2.1 = nesting

namespace Traversal.Keeps

variable {κ : Type} {part : Nesting -> κ}

theorem bind {first : Traversal σ ε α} {next : α -> Traversal σ ε β} (hfirst : first.Keeps part)
    (hnext : forall x : α, (next x).Keeps part) : (first >>= next).Keeps part := by
  intro nesting state
  have hkept := hfirst nesting state
  rw [runFrom_bind]
  rcases hrun : runFrom first nesting state with ⟨outcome, between, after⟩
  rw [hrun] at hkept
  cases outcome with
  | error error => exact hkept
  | ok x => exact (hnext x between after).trans hkept

theorem mapM {step : α -> Traversal σ ε β} (hstep : forall x : α, (step x).Keeps part)
    (xs : List α) : (xs.mapM step).Keeps part := by
  induction xs with
  | nil => exact fun _ _ => rfl
  | cons x rest ih =>
      rw [List.mapM_cons]
      apply bind (hstep x)
      intro y
      apply bind ih
      intro ys nesting state
      rfl

/-- A callback may call back into a lookup, which goes on counting from where it is. -/
theorem ofLookup [OfTreeError ε] {lookup : Lookup α} (hlookup : lookup.Keeps part) :
    (ofLookup lookup : Traversal σ ε α).Keeps part := by
  intro nesting state
  have hkept := hlookup nesting ()
  rw [runFrom_ofLookup]
  rcases hrun : runFrom lookup nesting () with ⟨outcome, between, rest⟩
  rw [hrun] at hkept
  cases outcome with
  | ok value => exact hkept
  | error error => exact hkept

end Traversal.Keeps

namespace Traversal.Balanced

theorem bind {first : Traversal σ ε α} {next : α -> Traversal σ ε β} (hfirst : first.Balanced)
    (hnext : forall x : α, (next x).Balanced) : (first >>= next).Balanced :=
  show (first >>= next).Keeps id from Keeps.bind hfirst hnext

theorem mapM {step : α -> Traversal σ ε β} (hstep : forall x : α, (step x).Balanced)
    (xs : List α) : (xs.mapM step).Balanced :=
  show (xs.mapM step).Keeps id from Keeps.mapM hstep xs

end Traversal.Balanced

/-!
# Folds over traces
-/

/-- How a run ends that leaves the nesting as it was. -/
def endAt (nesting : Nesting) (outcome : Except ε Control × σ) :
    Except ε Control × Nesting × σ :=
  (outcome.1, nesting, outcome.2)

/-- The left fold of a callback over nodes with their depths.  It ends at the first
node where the callback stops or fails. -/
def foldTrace (callback : ν -> Traversal σ ε Control) (limit : Nat) :
    List (ν × Nat) -> σ -> Except ε Control × σ
  | [], state => (.ok .proceed, state)
  | (node, depth) :: rest, state =>
      match runFrom (callback node) { depth, limit } state with
      | (.ok .proceed, _, after) => foldTrace callback limit rest after
      | (result, _, after) => (result, after)

variable [OfTreeError ε]

/-!
# Replaying steps
-/

/-- Take steps in order until one of them ends the walk. -/
def replay (callback : ν -> Traversal σ ε Control) (limit : Nat) :
    List (Step ν) -> σ -> Except ε Control × σ
  | [], state => (.ok .proceed, state)
  | .enter depth :: rest, state =>
      if depth <= limit then replay callback limit rest state
      else (.error (OfTreeError.ofTreeError (.stackDepthExceeded depth limit)), state)
  | .visit node depth :: rest, state =>
      match runFrom (callback node) { depth, limit } state with
      | (.ok .proceed, _, after) => replay callback limit rest after
      | (result, _, after) => (result, after)
  | .refuse error :: _, state => (.error (OfTreeError.ofTreeError error), state)

theorem replay_append (callback : ν -> Traversal σ ε Control) (limit : Nat)
    (first second : List (Step ν)) (state : σ) :
    replay callback limit (first ++ second) state =
      match replay callback limit first state with
      | (.ok .proceed, after) => replay callback limit second after
      | stopped => stopped := by
  induction first generalizing state with
  | nil => rfl
  | cons step rest ih =>
      cases step with
      | enter depth =>
          simp only [List.cons_append, replay]
          split
          · exact ih state
          · rfl
      | visit node depth =>
          simp only [List.cons_append, replay]
          rcases runFrom (callback node) { depth, limit } state with ⟨result, nesting, after⟩
          cases result with
          | error error => rfl
          | ok control =>
              cases control with
              | stop => rfl
              | proceed => exact ih after
      | refuse error => rfl

/-- Run from this nesting, the walk takes the given steps. -/
def Performs (callback : ν -> Traversal σ ε Control) (steps : List (Step ν)) (nesting : Nesting)
    (walk : Traversal σ ε Control) : Prop :=
  forall state : σ,
    runFrom walk nesting state = endAt nesting (replay callback nesting.limit steps state)

variable {callback : ν -> Traversal σ ε Control} {nesting : Nesting}

theorem performs_proceed : Performs callback [] nesting (pure .proceed) := by
  intro state
  rfl

theorem performs_raise (error : TreeError) :
    Performs callback [.refuse error] nesting (raise error) := by
  intro state
  rfl

theorem performs_callback (hcallback : forall node : ν, (callback node).Balanced)
    (node : ν) : Performs callback [.visit node nesting.depth] nesting (callback node) := by
  intro state
  have hbalanced := hcallback node nesting state
  rw [replay]
  rcases hrun : runFrom (callback node) nesting state with ⟨result, after, state'⟩
  rw [hrun] at hbalanced
  simp only at hbalanced
  rw [hbalanced]
  cases result with
  | error error => rfl
  | ok control => cases control <;> rfl

namespace Performs

theorem andThen {first second : List (Step ν)} {walk rest : Traversal σ ε Control}
    (hfirst : Performs callback first nesting walk)
    (hsecond : Performs callback second nesting rest) :
    Performs callback (first ++ second) nesting (andThen walk rest) := by
  intro state
  rw [runFrom_andThen, hfirst state, replay_append]
  rcases replay callback nesting.limit first state with ⟨result, after⟩
  cases result with
  | error error => rfl
  | ok control =>
      cases control with
      | stop => rfl
      | proceed => exact hsecond after

theorem visitAll {visit : α -> Traversal σ ε Control} {steps : α -> List (Step ν)} {xs : List α}
    (hvisit : forall x : α, x ∈ xs -> Performs callback (steps x) nesting (visit x)) :
    Performs callback (xs.flatMap steps) nesting (visitAll visit xs) := by
  induction xs with
  | nil => exact performs_proceed
  | cons x rest ih =>
      apply Performs.andThen
      · exact hvisit x List.mem_cons_self
      · apply ih
        intro y hy
        exact hvisit y (List.mem_cons_of_mem x hy)

theorem guarded {steps : List (Step ν)} {walk : Traversal σ ε Control}
    (hwalk : nesting.depth + 1 <= nesting.limit ->
      Performs callback steps { nesting with depth := nesting.depth + 1 } walk) :
    Performs callback (.enter (nesting.depth + 1) :: steps) nesting (guarded walk) := by
  intro state
  rw [runFrom_guarded, Nesting.enter?, replay]
  by_cases hlimit : nesting.depth + 1 <= nesting.limit
  · simp only [if_pos hlimit, hwalk hlimit state]
    rfl
  · simp only [if_neg hlimit]
    rfl

end Performs

/-!
# Recursion

In what follows `visit` is the recursion of a walk: from any nesting with fewer
levels left, it follows the itinerary of the node that it is given.
-/

/-- From every nesting with fewer levels left, a visitor takes the steps of a node's
itinerary. -/
def Follows (callback : ν -> Traversal σ ε Control) (itinerary : ν -> Nat -> List (Step ν))
    (nesting : Nesting) (visit : ν -> Traversal σ ε Control) : Prop :=
  forall (node : ν) (deeper : Nesting), deeper.remaining < nesting.remaining ->
    Performs callback (itinerary node deeper.depth) deeper (visit node)

section

variable {itinerary : ν -> Nat -> List (Step ν)} {visit : ν -> Traversal σ ε Control}

theorem Follows.enter (hvisit : Follows callback itinerary nesting visit)
    (hlimit : nesting.depth + 1 <= nesting.limit) :
    Follows callback itinerary { nesting with depth := nesting.depth + 1 } visit := by
  intro node deeper hdeeper
  apply hvisit node deeper
  simp only [Nesting.remaining] at hdeeper ⊢
  omega

/-- Right below the current level, there are fewer levels left. -/
theorem Follows.below (hvisit : Follows callback itinerary nesting visit)
    (hlimit : nesting.depth + 1 <= nesting.limit) (node : ν) :
    Performs callback (itinerary node (nesting.depth + 1))
      { nesting with depth := nesting.depth + 1 } (visit node) := by
  apply hvisit
  simp only [Nesting.remaining]
  omega

/-- There, a visitor takes the steps of all itineraries of a list of nodes. -/
theorem Follows.visitAll (hvisit : Follows callback itinerary nesting visit)
    (hlimit : nesting.depth + 1 <= nesting.limit) (nodes : List ν) :
    Performs callback (nodes.flatMap fun node => itinerary node (nesting.depth + 1))
      { nesting with depth := nesting.depth + 1 } (visitAll visit nodes) := by
  apply Performs.visitAll
  intro node _hnode
  exact hvisit.below hlimit node

/-- A recursion takes the steps of the itinerary, if one step of it does so as soon as its
calls from further down do. -/
theorem performs_recurse
    {step : (ν -> Traversal σ ε Control) -> ν -> Traversal σ ε Control}
    (hstep : forall (visit : ν -> Traversal σ ε Control) (nesting : Nesting),
      Follows callback itinerary nesting visit -> forall node : ν,
        Performs callback (itinerary node nesting.depth) nesting (step visit node))
    (node : ν) (nesting : Nesting) :
    Performs callback (itinerary node nesting.depth) nesting (recurse step node) := by
  -- the levels that remain bound the recursion, so it never runs out before the limit does
  have hbounded : forall (levels : Nat) (node : ν) (nesting : Nesting),
      nesting.remaining < levels ->
        Performs callback (itinerary node nesting.depth) nesting
          (recurse.bounded step levels node) := by
    intro levels
    induction levels with
    | zero =>
        intro node nesting hlevels
        omega
    | succ levels ih =>
        intro node nesting hlevels
        apply hstep
        intro child deeper hdeeper
        apply ih
        omega
  intro state
  rw [runFrom_recurse]
  exact hbounded (nesting.remaining + 1) node nesting (Nat.lt_succ_self _) state

end

/-!
# Walks
-/

section

variable {callback visit : Visitor σ ε} {scope : Scope}
  (hvisit : Follows callback (Node.itinerary scope) nesting visit)

include hvisit

theorem performs_toEach (hlimit : nesting.depth + 1 <= nesting.limit) (nodes : List Node) :
    Performs callback ((toEach nodes (nesting.depth + 1)).flatMap (Step.unfold scope))
      { nesting with depth := nesting.depth + 1 } (visitAll visit nodes) := by
  rw [toEach_flatMap_unfold]
  exact hvisit.visitAll hlimit nodes

theorem performs_walkEntry (node : Node) :
    Performs callback ((node.entryPlan scope nesting.depth).flatMap (Step.unfold scope)) nesting
      (walkEntry visit scope node) := by
  cases node with
  | rangeTblEntry entry =>
      rw [Node.entryPlan, walkEntry_rangeTblEntry, enter_flatMap_unfold,
        List.flatMap_append]
      apply Performs.guarded
      intro hlimit
      apply Performs.andThen
      · split
        · rw [List.flatMap_singleton]
          exact hvisit.below hlimit _
        · exact performs_proceed
      · exact performs_toEach hvisit hlimit (entry.contents scope)
  | _ =>
      apply Performs.guarded
      intro hlimit
      exact performs_raise _

theorem performs_walkQuery (q : Query) :
    Performs callback ((q.plan scope nesting.depth).flatMap (Step.unfold scope)) nesting
      (walkQuery visit scope q) := by
  rw [Query.plan, enter_flatMap_unfold, List.flatMap_append, List.flatMap_append]
  apply Performs.guarded
  intro hlimit
  apply Performs.andThen (performs_toEach hvisit hlimit q.clauses)
  apply Performs.andThen
  · split
    · exact performs_proceed
    · rw [List.flatMap_assoc]
      apply Performs.visitAll
      intro member _hmember
      exact performs_walkEntry (hvisit.enter hlimit) member
  · split
    · exact performs_proceed
    · exact performs_toEach hvisit hlimit q.cteList

theorem performs_walkBelow (node : Node) :
    Performs callback ((node.plan scope nesting.depth).flatMap (Step.unfold scope)) nesting
      (walkBelow visit scope node) := by
  induction node using Node.byParts with
  | query q => exact performs_walkQuery hvisit q
  | entry entry => exact performs_proceed
  | plain node hplain =>
      rw [Node.plan_of_plain hplain, walkBelow_of_plain hplain, enter_flatMap_unfold]
      apply Performs.guarded
      intro hlimit
      exact performs_toEach hvisit hlimit node.children

end

/-- A walk takes the steps of its itinerary. -/
theorem performs_walkTree {callback : Visitor σ ε}
    (hcallback : forall node : Node, (callback node).Balanced) (scope : Scope) (node : Node)
    (nesting : Nesting) :
    Performs callback (node.itinerary scope nesting.depth) nesting
      (walkTree callback scope node) := by
  apply performs_recurse
  intro visit nesting hvisit node
  rw [Node.itinerary_eq]
  exact Performs.andThen (performs_callback hcallback node) (performs_walkBelow hvisit node)

/-!
# Walks as folds
-/

/-- Taking the steps leads to a level beyond the limit: nothing before it ends the
walk. -/
def HitsLimit (callback : ν -> Traversal σ ε Control) (limit : Nat) (steps : List (Step ν))
    (state : σ) : Prop :=
  exists (before : List (Step ν)) (depth : Nat) (after : List (Step ν)),
    steps = before ++ .enter depth :: after ∧
      (replay callback limit before state).1 = .ok .proceed ∧ limit < depth

theorem replay_of_hitsLimit {limit : Nat} {steps : List (Step ν)} {state : σ}
    (hhits : HitsLimit callback limit steps state) :
    exists depth : Nat, limit < depth ∧
      (replay callback limit steps state).1 =
        .error (OfTreeError.ofTreeError (.stackDepthExceeded depth limit)) := by
  rcases hhits with ⟨before, depth, after, hsteps, hbefore, hdepth⟩
  refine ⟨depth, hdepth, ?_⟩
  rw [hsteps, replay_append]
  rcases hrun : replay callback limit before state with ⟨result, state'⟩
  rw [hrun] at hbefore
  simp only at hbefore
  rw [hbefore]
  simp only [replay, if_neg (Nat.not_le_of_lt hdepth)]

/-- Steps that neither refuse the tree nor lead beyond the limit only show nodes. -/
theorem replay_eq_foldTrace {limit : Nat} {steps : List (Step ν)} {state : σ}
    (hrefuse : forall error : TreeError, .refuse error ∉ steps)
    (hlimit : ¬ HitsLimit callback limit steps state) :
    replay callback limit steps state = foldTrace callback limit (shown steps) state := by
  induction steps generalizing state with
  | nil => rfl
  | cons step rest ih =>
      have hrest : forall error : TreeError, .refuse error ∉ rest := by
        intro error hmem
        exact hrefuse error (List.mem_cons_of_mem step hmem)
      cases step with
      | enter depth =>
          by_cases hdepth : depth <= limit
          · rw [replay, if_pos hdepth, shown_enter]
            apply ih hrest
            rintro ⟨before, deeper, after, hsteps, hbefore, hdeeper⟩
            apply hlimit
            refine ⟨.enter depth :: before, deeper, after, by rw [hsteps]; rfl, ?_, hdeeper⟩
            rw [replay, if_pos hdepth]
            exact hbefore
          · exfalso
            exact hlimit ⟨[], depth, rest, rfl, rfl, Nat.lt_of_not_le hdepth⟩
      | visit node depth =>
          show replay callback limit (.visit node depth :: rest) state =
            foldTrace callback limit ((node, depth) :: shown rest) state
          rw [replay, foldTrace]
          rcases hrun : runFrom (callback node) { depth, limit } state with
            ⟨result, nesting, state'⟩
          cases result with
          | error error => rfl
          | ok control =>
              cases control with
              | stop => rfl
              | proceed =>
                  apply ih hrest
                  rintro ⟨before, deeper, after, hsteps, hbefore, hdeeper⟩
                  apply hlimit
                  refine ⟨.visit node depth :: before, deeper, after, by rw [hsteps]; rfl, ?_,
                    hdeeper⟩
                  rw [replay, hrun]
                  exact hbefore
      | refuse error =>
          exfalso
          exact hrefuse error List.mem_cons_self

/-- Over range tables that hold entries only, a walk is the left fold of its callback
over the trace, unless it hits the limit, which is then the error it ends with.  The
trace is in preorder and knows nothing of the callback. -/
theorem walkTree_eq_foldTrace (callback : Visitor σ ε)
    (hcallback : forall node : Node, (callback node).Balanced) (scope : Scope) (node : Node)
    (htables : node.EntryTables scope) (nesting : Nesting) (state : σ) :
    InPreorder (fun scope node depth => node.trace scope depth) ∧
      (¬ HitsLimit callback nesting.limit (node.itinerary scope nesting.depth) state ->
        runFrom (walkTree callback scope node) nesting state =
          endAt nesting
            (foldTrace callback nesting.limit (node.trace scope nesting.depth) state)) ∧
      (HitsLimit callback nesting.limit (node.itinerary scope nesting.depth) state ->
        exists depth : Nat, nesting.limit < depth ∧
          (runFrom (walkTree callback scope node) nesting state).1 =
            .error (OfTreeError.ofTreeError (.stackDepthExceeded depth nesting.limit))) := by
  refine ⟨Node.inPreorder_trace, ?_, ?_⟩
  · intro hlimit
    rw [performs_walkTree hcallback scope node nesting state, replay_eq_foldTrace _ hlimit]
    · rfl
    · intro error
      exact htables.refuse_notMem_itinerary error nesting.depth
  · intro hhits
    rw [performs_walkTree hcallback scope node nesting state]
    exact replay_of_hitsLimit hhits

/-- Count the nodes shown, and stop at a range-table entry. -/
def countToEntry (node : Node) : Traversal Nat TreeError Control := do
  modifyState (· + 1)
  return if node.tag = .rangeTblEntry then .stop else .proceed

/-- The subquery of `nestedSelect` would need a third level, but the walk stops before
it asks for one. -/
theorem walkTree_eq_foldTrace_nestedSelect :
    runFrom (walkTree countToEntry { showEntries := true } Node.nestedSelect) (.start 2) 0 =
        (.ok .stop, .start 2, 2) ∧
      runFrom (walkTree countToEntry { showEntries := true } Node.nestedSelect) (.start 2) 0 =
        endAt (.start 2)
          (foldTrace countToEntry 2 (Node.nestedSelect.trace { showEntries := true } 0) 0) := by
  have hrun :
      runFrom (walkTree countToEntry { showEntries := true } Node.nestedSelect) (.start 2) 0 =
        (.ok .stop, .start 2, 2) :=
    rfl
  have hwalk :=
    walkTree_eq_foldTrace countToEntry (fun _ _ _ => rfl) { showEntries := true }
      Node.nestedSelect (Node.entryTables_nestedSelect _) (.start 2) 0
  refine ⟨hrun, hwalk.right.left ?_⟩
  intro hhits
  rcases hwalk.right.right hhits with ⟨depth, _hdepth, herror⟩
  rw [hrun] at herror
  cases herror

end QueryTree
