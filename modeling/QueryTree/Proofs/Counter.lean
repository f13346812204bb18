import QueryTree.Proofs.Congruence

/-!
# The counter is balanced

Levels are taken and given back by guarded steps alone.  An account of a run lists
what it does with the counter: each level that is given back, and each time a callback
is called.  Every operation has such an account, and every account shows that the
counter ends where it began, that a level is only given back by someone who holds it,
and that callbacks see depths between the start and the limit.
-/

namespace QueryTree

open Traversal

variable {ν σ ε α β γ : Type}

/-- Something a run does with the counter. -/
inductive CountEvent where
  | giveBack (before after : Nat)
  | call (depth : Nat)
deriving DecidableEq, Repr

variable [OfTreeError ε]

/-- The events of a run, block by block.  No block but a guarded step moves the counter by
itself; what a callback does with it in between is not listed. -/
inductive Runs (callback : ν -> Traversal σ ε γ) :
    {α : Type} -> Traversal σ ε α -> Nesting -> σ -> List CountEvent -> Prop where
  | pure {α : Type} (answer : α) (nesting : Nesting) (state : σ) :
      Runs callback (pure answer) nesting state []
  | raise {α : Type} (error : TreeError) (nesting : Nesting) (state : σ) :
      Runs callback (raise error : Traversal σ ε α) nesting state []
  | nesting (nesting : Nesting) (state : σ) :
      Runs callback Traversal.nesting nesting state []
  | call (shown : ν) (nesting : Nesting) (state : σ) :
      Runs callback (callback shown) nesting state [.call nesting.depth]
  | bind {α β : Type} {first : Traversal σ ε α} {next : α -> Traversal σ ε β}
      {nesting between : Nesting} {state after : σ} {x : α} {events rest : List CountEvent} :
      Runs callback first nesting state events ->
      runFrom first nesting state = (.ok x, between, after) ->
      Runs callback (next x) between after rest ->
      Runs callback (first >>= next) nesting state (events ++ rest)
  | bindFailed {α β : Type} {first : Traversal σ ε α} {next : α -> Traversal σ ε β}
      {nesting between : Nesting} {state after : σ} {error : ε} {events : List CountEvent} :
      Runs callback first nesting state events ->
      runFrom first nesting state = (.error error, between, after) ->
      Runs callback (first >>= next) nesting state events
  | refused {α : Type} {step : Traversal σ ε α} {nesting : Nesting} {state : σ}
      {error : TreeError} :
      nesting.enter? = .error error -> Runs callback (guarded step) nesting state []
  | guarded {α : Type} {step : Traversal σ ε α} {nesting deeper : Nesting} {state : σ}
      {result : Except ε α × Nesting × σ} {events : List CountEvent} :
      nesting.enter? = .ok deeper ->
      Runs callback step deeper state events ->
      runFrom step deeper state = result ->
      Runs callback (guarded step) nesting state
        (events ++ [.giveBack result.2.1.depth result.2.1.leave.depth])

/-!
# Every operation has an account
-/

section

variable {callback : ν -> Traversal σ ε γ}

/-- From wherever the computation starts, its run has an account. -/
def Accountable (callback : ν -> Traversal σ ε γ) (computation : Traversal σ ε α) : Prop :=
  forall (nesting : Nesting) (state : σ),
    exists events : List CountEvent, Runs callback computation nesting state events

theorem accountable_call (shown : ν) : Accountable callback (callback shown) := by
  intro nesting state
  exact ⟨_, .call shown nesting state⟩

theorem accountable_bind {first : Traversal σ ε α} {next : α -> Traversal σ ε β}
    (hfirst : Accountable callback first)
    (hnext : forall x : α, Accountable callback (next x)) :
    Accountable callback (first >>= next) := by
  intro nesting state
  rcases hfirst nesting state with ⟨events, hevents⟩
  rcases hrun : runFrom first nesting state with ⟨outcome, between, after⟩
  cases outcome with
  | error error => exact ⟨events, .bindFailed hevents hrun⟩
  | ok x =>
      rcases hnext x between after with ⟨rest, hrest⟩
      exact ⟨events ++ rest, .bind hevents hrun hrest⟩

theorem accountable_guarded {step : Traversal σ ε α} (hstep : Accountable callback step) :
    Accountable callback (Traversal.guarded step) := by
  intro nesting state
  cases henter : nesting.enter? with
  | error error => exact ⟨[], .refused henter⟩
  | ok deeper =>
      rcases hstep deeper state with ⟨events, hevents⟩
      exact ⟨_, .guarded henter hevents rfl⟩

theorem accountable_recurse {step : (α -> Traversal σ ε β) -> α -> Traversal σ ε β}
    (hstep : forall visit : α -> Traversal σ ε β,
      (forall x : α, Accountable callback (visit x)) ->
      forall x : α, Accountable callback (step visit x))
    (input : α) : Accountable callback (recurse step input) := by
  have hnesting : Accountable callback (Traversal.nesting : Traversal σ ε Nesting) := by
    intro nesting state
    exact ⟨[], .nesting nesting state⟩
  have hbounded : forall (levels : Nat) (x : α),
      Accountable callback (recurse.bounded step levels x) := by
    intro levels
    induction levels with
    | zero =>
        intro x
        apply accountable_bind hnesting
        intro here nesting state
        exact ⟨[], .raise _ nesting state⟩
    | succ levels ih => exact hstep _ ih
  exact accountable_bind hnesting fun here => hbounded (here.remaining + 1) input

/-- Two computations that both have accounts are as good as related: the blocks of one never
need those of the other. -/
theorem congruence_accountable (callback : ν -> Traversal σ ε γ) :
    Congruence fun _ _ one other => Accountable callback one ∧ Accountable callback other where
  pure _ answer := by
    constructor
    all_goals exact fun nesting state => ⟨[], .pure answer nesting state⟩
  raise _ error := by
    constructor
    all_goals exact fun nesting state => ⟨[], .raise error nesting state⟩
  bind hfirst hnext := by
    constructor
    · exact accountable_bind hfirst.left fun x => (hnext x).left
    · exact accountable_bind hfirst.right fun x => (hnext x).right
  guarded hstep := ⟨accountable_guarded hstep.left, accountable_guarded hstep.right⟩
  recurse hstep input depth := by
    rw [and_self]
    apply accountable_recurse
    intro visit hvisit x
    exact (hstep visit visit depth (fun y _ _ => ⟨hvisit y, hvisit y⟩) x).left

end

/-!
# What every account shows
-/

namespace Runs

variable {callback : ν -> Traversal σ ε γ} {computation : Traversal σ ε α} {nesting : Nesting}
  {state : σ} {events : List CountEvent}

theorem enter_eq_ok {deeper : Nesting} (henter : nesting.enter? = .ok deeper) :
    nesting.depth + 1 <= nesting.limit ∧
      deeper = { nesting with depth := nesting.depth + 1 } := by
  unfold Nesting.enter? at henter
  split at henter
  · rename_i hle
    cases henter
    exact ⟨hle, rfl⟩
  · cases henter

/-- What callbacks keep and a level given back restores is kept by every run. -/
theorem keeps {part : Nesting -> Nat} (hcallback : forall x : ν, (callback x).Keeps part)
    (hlevel : forall nesting deeper after : Nesting, nesting.enter? = .ok deeper ->
      part after = part deeper -> part after.leave = part nesting)
    (hruns : Runs callback computation nesting state events) :
    part (runFrom computation nesting state).2.1 = part nesting := by
  induction hruns with
  | pure | raise | nesting => rfl
  | call shown nesting state => exact hcallback shown nesting state
  | bind _hfirst hrun _hnext ihFirst ihNext =>
      rw [hrun] at ihFirst
      rw [runFrom_bind, hrun]
      exact ihNext.trans ihFirst
  | bindFailed _hfirst hrun ih =>
      rw [hrun] at ih
      rw [runFrom_bind, hrun]
      exact ih
  | refused henter => rw [runFrom_guarded, henter]
  | guarded henter _hstep hresult ih =>
      rw [runFrom_guarded, henter]
      exact hlevel _ _ _ henter ih

theorem keeps_depth (hcallback : forall x : ν, (callback x).Keeps Nesting.depth)
    (hruns : Runs callback computation nesting state events) :
    (runFrom computation nesting state).2.1.depth = nesting.depth := by
  apply hruns.keeps hcallback
  intro nesting deeper after henter hafter
  rcases enter_eq_ok henter with ⟨_, rfl⟩
  simp only [Nesting.leave, hafter, Nat.add_sub_cancel]

theorem keeps_limit (hcallback : forall x : ν, (callback x).Keeps Nesting.limit)
    (hruns : Runs callback computation nesting state events) :
    (runFrom computation nesting state).2.1.limit = nesting.limit := by
  apply hruns.keeps hcallback
  intro nesting deeper after henter hafter
  rcases enter_eq_ok henter with ⟨_, rfl⟩
  exact hafter

/-- Whoever gives a level back holds it, so that the subtraction is exact. -/
theorem giveBack_exact (hcallback : forall x : ν, (callback x).Keeps Nesting.depth)
    (hruns : Runs callback computation nesting state events) {before after : Nat}
    (hmem : .giveBack before after ∈ events) : before = after + 1 := by
  induction hruns with
  | pure | raise | nesting | refused => cases hmem
  | call => simp at hmem
  | bind _hfirst _hrun _hnext ihFirst ihNext =>
      exact (List.mem_append.mp hmem).elim ihFirst ihNext
  | bindFailed _hfirst _hrun ih => exact ih hmem
  | guarded henter hstep hresult ih =>
      cases List.mem_append.mp hmem with
      | inl hinner => exact ih hinner
      | inr hlast =>
          -- the step ended at its own depth, which is one more than the start
          have hdepth := hstep.keeps_depth hcallback
          rcases enter_eq_ok henter with ⟨_, rfl⟩
          rw [hresult] at hdepth
          simp only [List.mem_singleton, CountEvent.giveBack.injEq, Nesting.leave] at hlast
          simp only at hdepth
          omega

theorem start_le_call (hcallback : forall x : ν, (callback x).Keeps Nesting.depth)
    (hruns : Runs callback computation nesting state events) {depth : Nat}
    (hmem : .call depth ∈ events) : nesting.depth <= depth := by
  induction hruns with
  | pure | raise | nesting | refused => cases hmem
  | call shown nesting state =>
      simp only [List.mem_singleton, CountEvent.call.injEq] at hmem
      exact Nat.le_of_eq hmem.symm
  | bind hfirst hrun _hnext ihFirst ihNext =>
      cases List.mem_append.mp hmem with
      | inl hmem => exact ihFirst hmem
      | inr hmem =>
          have hdepth := hfirst.keeps_depth hcallback
          rw [hrun] at hdepth
          exact Nat.le_trans (Nat.le_of_eq hdepth.symm) (ihNext hmem)
  | bindFailed _hfirst _hrun ih => exact ih hmem
  | guarded henter _hstep _hresult ih =>
      rcases enter_eq_ok henter with ⟨_, rfl⟩
      exact Nat.le_of_succ_le (ih (by simpa using hmem))

theorem call_le_limit (hdepth : forall x : ν, (callback x).Keeps Nesting.depth)
    (hlimit : forall x : ν, (callback x).Keeps Nesting.limit)
    (hruns : Runs callback computation nesting state events)
    (hstart : nesting.depth <= nesting.limit) {depth : Nat} (hmem : .call depth ∈ events) :
    depth <= nesting.limit := by
  induction hruns with
  | pure | raise | nesting | refused => cases hmem
  | call shown nesting state =>
      simp only [List.mem_singleton, CountEvent.call.injEq] at hmem
      exact Nat.le_trans (Nat.le_of_eq hmem) hstart
  | bind hfirst hrun _hnext ihFirst ihNext =>
      have hsameDepth := hfirst.keeps_depth hdepth
      have hsameLimit := hfirst.keeps_limit hlimit
      rw [hrun] at hsameDepth hsameLimit
      simp only at hsameDepth hsameLimit
      cases List.mem_append.mp hmem with
      | inl hmem => exact ihFirst hstart hmem
      | inr hmem =>
          rw [← hsameLimit]
          exact ihNext (by omega) hmem
  | bindFailed _hfirst _hrun ih => exact ih hstart hmem
  | guarded henter _hstep _hresult ih =>
      -- a level is only taken if it is within the limit
      rcases enter_eq_ok henter with ⟨hroom, rfl⟩
      exact ih hroom (by simpa using hmem)

end Runs

/-!
# Every entry point
-/

/-- The counter is balanced whenever the computation is run: it ends where it began, and
along the way no level is given back that is not held, and callbacks are called at depths
between the start and the limit, unless a callback changes the limit. -/
def CountsLevels (callback : ν -> Traversal σ ε γ) (computation : Traversal σ ε α) : Prop :=
  forall (nesting : Nesting) (state : σ),
    (runFrom computation nesting state).2.1.depth = nesting.depth ∧
      (exists events : List CountEvent, Runs callback computation nesting state events) ∧
      forall events : List CountEvent, Runs callback computation nesting state events ->
        (forall before after : Nat, .giveBack before after ∈ events -> before = after + 1) ∧
          forall depth : Nat, .call depth ∈ events ->
            nesting.depth <= depth ∧
              ((forall x : ν, (callback x).Keeps Nesting.limit) ->
                nesting.depth <= nesting.limit -> depth <= nesting.limit)

theorem countsLevels_of_accountable {callback : ν -> Traversal σ ε γ}
    (hcallback : forall x : ν, (callback x).Keeps Nesting.depth)
    {computation : Traversal σ ε α} (haccount : Accountable callback computation) :
    CountsLevels callback computation := by
  intro nesting state
  rcases haccount nesting state with ⟨events, hevents⟩
  refine ⟨hevents.keeps_depth hcallback, ⟨events, hevents⟩, ?_⟩
  intro events hruns
  constructor
  · intro before after hmem
    exact hruns.giveBack_exact hcallback hmem
  · intro depth hmem
    constructor
    · exact hruns.start_le_call hcallback hmem
    · intro hlimit hstart
      exact hruns.call_le_limit hcallback hlimit hstart hmem

/-- A lookup calls nobody back. -/
def nobody (shown : Empty) : Lookup Unit :=
  nomatch shown

/-- The counter is balanced in every lookup, walk and transformation, whatever it is run on
and however it ends, as long as callbacks leave the counter as they found it. -/
theorem nesting_counter_balanced (catalog : Catalog) (node : Node) (raw : RawNode) (q : Query)
    (rtable : List Node) (typmod : Int32) (scope : Scope) (visitor : Visitor σ ε)
    (rawVisitor : RawVisitor σ ε) (transformer : Transformer σ ε)
    (replacer : Node -> Traversal σ ε (Option Node))
    (hvisitor : forall node : Node, (visitor node).Keeps Nesting.depth)
    (hrawVisitor : forall raw : RawNode, (rawVisitor raw).Keeps Nesting.depth)
    (htransformer : forall node : Node, (transformer node).Keeps Nesting.depth)
    (hreplacer : forall node : Node, (replacer node).Keeps Nesting.depth) :
    (CountsLevels visitor (walkTree visitor scope node) ∧
        CountsLevels visitor (walkQueryTree visitor scope q) ∧
        CountsLevels visitor (walkChildren visitor node) ∧
        CountsLevels visitor (walkQuery visitor scope q) ∧
        CountsLevels visitor (walkQueryOrExpr visitor scope node) ∧
        CountsLevels visitor (walkRangeTable visitor scope rtable)) ∧
      (CountsLevels rawVisitor (walkRawTree rawVisitor raw) ∧
        CountsLevels rawVisitor (walkRawChildren rawVisitor raw)) ∧
      (CountsLevels replacer (transformTree replacer scope node) ∧
        CountsLevels replacer (transformQueryTree replacer scope q) ∧
        CountsLevels transformer (transformChildren transformer node) ∧
        CountsLevels transformer (transformQuery transformer scope q) ∧
        CountsLevels transformer (transformQueryOrExpr transformer scope node) ∧
        CountsLevels transformer (transformRangeTable transformer scope rtable)) ∧
      (CountsLevels nobody (node.exprType catalog) ∧
        CountsLevels nobody (node.exprTypmod catalog) ∧
        CountsLevels nobody node.exprCollation ∧
        CountsLevels nobody node.exprLocation ∧
        CountsLevels nobody raw.exprLocation ∧
        CountsLevels nobody node.returnsSet ∧
        CountsLevels nobody (node.relabelToTypmod catalog typmod)) := by
  have hvisits := congruence_accountable visitor
  have hrawVisits := congruence_accountable rawVisitor
  have htransforms := congruence_accountable transformer
  have hreplaces := congruence_accountable replacer
  have hlookups := congruence_accountable nobody
  have hvisit (x : Node) : Accountable visitor (visitor x) ∧ Accountable visitor (visitor x) :=
    ⟨accountable_call x, accountable_call x⟩
  have hrawVisit (x : RawNode) :
      Accountable rawVisitor (rawVisitor x) ∧ Accountable rawVisitor (rawVisitor x) :=
    ⟨accountable_call x, accountable_call x⟩
  have htransform (x : Node) :
      Accountable transformer (transformer x) ∧ Accountable transformer (transformer x) :=
    ⟨accountable_call x, accountable_call x⟩
  have hreplace (x : Node) :
      Accountable replacer (replacer x) ∧ Accountable replacer (replacer x) :=
    ⟨accountable_call x, accountable_call x⟩
  refine ⟨⟨?_, ?_, ?_, ?_, ?_, ?_⟩, ⟨?_, ?_⟩, ⟨?_, ?_, ?_, ?_, ?_, ?_⟩,
    ⟨?_, ?_, ?_, ?_, ?_, ?_, ?_⟩⟩
  · apply countsLevels_of_accountable hvisitor
    exact (hvisits.walkTree (fun x _ => hvisit x) scope node 0).left
  · apply countsLevels_of_accountable hvisitor
    exact (hvisits.walkQueryTree (fun x _ => hvisit x) scope q 0).left
  · apply countsLevels_of_accountable hvisitor
    exact (hvisits.walkChildren (fun x _ (_ : 0 < _) => hvisit x) node).left
  · apply countsLevels_of_accountable hvisitor
    exact (hvisits.walkQuery (fun x _ (_ : 0 < _) => hvisit x) scope q).left
  · apply countsLevels_of_accountable hvisitor
    exact (hvisits.walkQueryOrExpr (fun x _ (_ : 0 <= _) => hvisit x) scope node).left
  · apply countsLevels_of_accountable hvisitor
    exact (hvisits.walkRangeTable (fun x _ (_ : 0 < _) => hvisit x) scope rtable).left
  · apply countsLevels_of_accountable hrawVisitor
    exact (hrawVisits.walkRawTree (fun x _ => hrawVisit x) raw 0).left
  · apply countsLevels_of_accountable hrawVisitor
    exact (hrawVisits.walkRawChildren (fun x _ (_ : 0 < _) => hrawVisit x) raw).left
  · apply countsLevels_of_accountable hreplacer
    exact (hreplaces.transformTree (fun x _ => hreplace x) scope node 0).left
  · apply countsLevels_of_accountable hreplacer
    exact (hreplaces.transformQueryTree (fun x _ => hreplace x) scope q 0).left
  · apply countsLevels_of_accountable htransformer
    exact (htransforms.transformChildren (fun x _ (_ : 0 < _) => htransform x) node).left
  · apply countsLevels_of_accountable htransformer
    exact (htransforms.transformQuery (fun x _ (_ : 0 < _) => htransform x) scope q).left
  · apply countsLevels_of_accountable htransformer
    exact (htransforms.transformQueryOrExpr (fun x _ (_ : 0 <= _) => htransform x) scope node).left
  · apply countsLevels_of_accountable htransformer
    exact (htransforms.transformRangeTable (fun x _ (_ : 0 < _) => htransform x) scope rtable).left
  · exact countsLevels_of_accountable nofun (hlookups.exprType catalog node 0).left
  · exact countsLevels_of_accountable nofun (hlookups.exprTypmod catalog node 0).left
  · exact countsLevels_of_accountable nofun (hlookups.exprCollation node 0).left
  · exact countsLevels_of_accountable nofun (hlookups.exprLocation node 0).left
  · exact countsLevels_of_accountable nofun (hlookups.rawExprLocation raw 0).left
  · exact countsLevels_of_accountable nofun (hlookups.returnsSet node 0).left
  · exact countsLevels_of_accountable nofun (hlookups.relabelToTypmod catalog node typmod 0).left

/-- A callback that counts its calls and looks for sets below what it is shown. -/
def stopAtSets (node : Node) : Traversal Nat TreeError Control := do
  modifyState (· + 1)
  let returnsSet ← ofLookup node.returnsSet
  return if returnsSet then .stop else .proceed

theorem keeps_stopAtSets (node : Node) : (stopAtSets node).Keeps Nesting.depth := by
  have hreturnsSet : node.returnsSet.Keeps Nesting.depth := by
    intro nesting state
    rcases ((congruence_accountable nobody).returnsSet node 0).left nesting state with
      ⟨events, hruns⟩
    exact hruns.keeps_depth nofun
  apply Keeps.bind
  · intro nesting state
    rfl
  · intro _
    apply (Keeps.ofLookup hreturnsSet).bind
    intro found nesting state
    rfl

theorem nesting_counter_balanced_stopAtSets :
    CountsLevels stopAtSets (walkTree stopAtSets .everything .nestedSelect) ∧
      CountsLevels stopAtSets (walkQueryTree stopAtSets .everything .bare) := by
  have hbalanced := nesting_counter_balanced .builtin .nestedSelect (.list []) .bare [] 0
    .everything stopAtSets (fun _ => pure .proceed) (fun node => pure node)
    (fun _ => pure none) keeps_stopAtSets (fun _ _ _ => rfl) (fun _ _ _ => rfl)
    (fun _ _ _ => rfl)
  exact ⟨hbalanced.left.left, hbalanced.left.right.left⟩

end QueryTree
