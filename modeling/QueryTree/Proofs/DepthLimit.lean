import QueryTree.Proofs.Congruence
import QueryTree.Proofs.Replies

/-!
# The limit only cuts off

A limit on nesting does not change what a lookup, a walk or a transformation does: it
can only end it, at the first level beyond the limit.  Under a tighter limit each of
them fails for lack of levels, or ends as it does under a looser one, and what its
callback has been shown by then is where the looser run begins.
-/

namespace QueryTree

open Traversal

/-!
# Two runs
-/

/-- Two limits to be compared. -/
structure Limits where
  tight : Nat
  loose : Nat
  le : tight <= loose

variable {ν σ ε α β : Type} [OfTreeError ε]

/-- Run from the same depth under the two limits, the computations end alike, or the first
one has run out of levels.  The log, which is part of the state, only grows, and cannot
have got further in the run that was cut off. -/
def Curtails (limits : Limits) (log : σ -> List ν) (depth : Nat)
    (tight loose : Traversal σ ε α) : Prop :=
  forall state : σ, depth <= limits.loose ->
    exists (outcome : Except ε α) (after : σ),
      runFrom loose { depth, limit := limits.loose } state =
        (outcome, { depth, limit := limits.loose }, after) ∧
      log state <+: log after ∧
      (depth <= limits.tight ->
        runFrom tight { depth, limit := limits.tight } state =
          (outcome, { depth, limit := limits.tight }, after) ∨
        exists early : σ,
          runFrom tight { depth, limit := limits.tight } state =
            (.error (OfTreeError.ofTreeError
                (.stackDepthExceeded (limits.tight + 1) limits.tight)),
              { depth, limit := limits.tight }, early) ∧
          log early <+: log after)

variable {limits : Limits} {log : σ -> List ν} {depth : Nat}

@[simp] theorem curtails_pure (answer : α) :
    Curtails limits log depth (pure answer : Traversal σ ε α) (pure answer) := by
  intro state _hdepth
  exact ⟨.ok answer, state, rfl, List.prefix_rfl, fun _ => Or.inl rfl⟩

@[simp] theorem curtails_raise (error : TreeError) :
    Curtails limits log depth (raise error : Traversal σ ε α) (raise error) := by
  intro state _hdepth
  exact ⟨.error (OfTreeError.ofTreeError error), state, rfl, List.prefix_rfl,
    fun _ => Or.inl rfl⟩

/-- A reply sees the depth, and not the limit. -/
theorem curtails_reply {μ : Type} (reply : Reply μ σ ε α) (shown : μ)
    (hlog : forall state : σ, log state <+: log (reply shown depth state).2) :
    Curtails limits log depth (reply.run shown) (reply.run shown) := by
  intro state _hdepth
  exact ⟨(reply shown depth state).1, (reply shown depth state).2, rfl, hlog state,
    fun _ => Or.inl rfl⟩

namespace Curtails

/-- Beyond the tighter limit nothing is said about the first run. -/
theorem of_beyond {tight other loose : Traversal σ ε α} (hdepth : limits.tight < depth)
    (hcurtails : Curtails limits log depth other loose) :
    Curtails limits log depth tight loose := by
  intro state hloose
  rcases hcurtails state hloose with ⟨outcome, after, hrun, hgrows, _⟩
  refine ⟨outcome, after, hrun, hgrows, ?_⟩
  intro htight
  omega

theorem bind {tight loose : Traversal σ ε α} {next looseNext : α -> Traversal σ ε β}
    (hfirst : Curtails limits log depth tight loose)
    (hnext : forall x : α, Curtails limits log depth (next x) (looseNext x)) :
    Curtails limits log depth (tight >>= next) (loose >>= looseNext) := by
  intro state hdepth
  rcases hfirst state hdepth with ⟨outcome, after, hloose, hgrows, htight⟩
  cases outcome with
  | error error =>
      refine ⟨.error error, after, by rw [runFrom_bind, hloose], hgrows, ?_⟩
      intro hlimit
      rcases htight hlimit with hsame | ⟨early, hearly, hbefore⟩
      · exact Or.inl (by rw [runFrom_bind, hsame])
      · exact Or.inr ⟨early, by rw [runFrom_bind, hearly], hbefore⟩
  | ok x =>
      rcases hnext x after hdepth with ⟨outcome, final, hlooseNext, hgrowsNext, htightNext⟩
      refine ⟨outcome, final, by rw [runFrom_bind, hloose]; exact hlooseNext,
        hgrows.trans hgrowsNext, ?_⟩
      intro hlimit
      rcases htight hlimit with hsame | ⟨early, hearly, hbefore⟩
      · rw [runFrom_bind, hsame]
        exact htightNext hlimit
      · exact Or.inr ⟨early, by rw [runFrom_bind, hearly], hbefore.trans hgrowsNext⟩

theorem guarded {tight loose : Traversal σ ε α}
    (hstep : Curtails limits log (depth + 1) tight loose) :
    Curtails limits log depth (guarded tight) (guarded loose) := by
  intro state hdepth
  have hle := limits.le
  by_cases hloose : depth + 1 <= limits.loose
  · rcases hstep state hloose with ⟨outcome, after, hrun, hgrows, htight⟩
    refine ⟨outcome, after, ?_, hgrows, ?_⟩
    · rw [runFrom_guarded, Nesting.enter?]
      simp only [if_pos hloose, hrun]
      rfl
    intro hlimit
    rw [runFrom_guarded, Nesting.enter?]
    by_cases hdeeper : depth + 1 <= limits.tight
    · simp only [if_pos hdeeper]
      rcases htight hdeeper with hsame | ⟨early, hearly, hbefore⟩
      · exact Or.inl (by rw [hsame]; rfl)
      · exact Or.inr ⟨early, by rw [hearly]; rfl, hbefore⟩
    · -- the level that is missing is the first one beyond the tighter limit
      have hlast : depth = limits.tight := by omega
      simp only [if_neg hdeeper]
      exact Or.inr ⟨state, by rw [hlast], hgrows⟩
  · refine ⟨.error (OfTreeError.ofTreeError (.stackDepthExceeded (depth + 1) limits.loose)),
      state, ?_, List.prefix_rfl, ?_⟩
    · rw [runFrom_guarded, Nesting.enter?]
      simp only [if_neg hloose]
    intro hlimit
    have hequal : limits.tight = limits.loose := by omega
    left
    rw [runFrom_guarded, Nesting.enter?, hequal]
    simp only [if_neg hloose]

/-- A step that takes a level before each call of itself makes a recursion that a tighter
limit only cuts off. -/
theorem recurse {step : (α -> Traversal σ ε β) -> α -> Traversal σ ε β}
    (hstep : forall (visit looseVisit : α -> Traversal σ ε β) (depth : Nat),
      (forall (x : α) (deeper : Nat), depth < deeper ->
        Curtails limits log deeper (visit x) (looseVisit x)) ->
      forall x : α, Curtails limits log depth (step visit x) (step looseVisit x))
    (input : α) (depth : Nat) :
    Curtails limits log depth (recurse step input) (recurse step input) := by
  -- the two recursions get different numbers of levels, each enough for its own limit
  have hbounded : forall (looseLevels levels : Nat) (x : α) (depth : Nat),
      limits.loose < depth + looseLevels -> limits.tight < depth + levels ->
        Curtails limits log depth (recurse.bounded step levels x)
          (recurse.bounded step looseLevels x) := by
    intro looseLevels
    induction looseLevels with
    | zero =>
        intro levels x depth hloose _htight state hdepth
        omega
    | succ looseLevels ih =>
        intro levels x depth hloose htight
        have hbelow : forall levels : Nat, limits.tight < depth + 1 + levels ->
            Curtails limits log depth (step (recurse.bounded step levels) x)
              (step (recurse.bounded step looseLevels) x) := by
          intro levels hlevels
          apply hstep
          intro y deeper hdeeper
          apply ih
          · omega
          · omega
        cases levels with
        | zero => exact of_beyond htight (hbelow 0 (by omega))
        | succ levels => exact hbelow levels (by omega)
  intro state hdepth
  simp only [runFrom_recurse]
  exact hbounded (limits.loose - depth + 1) (limits.tight - depth + 1) input depth (by omega)
    (by omega) state hdepth

end Curtails

theorem congruence_curtails (limits : Limits) (log : σ -> List ν) :
    Congruence fun _ depth (tight loose : Traversal σ ε _) =>
      Curtails limits log depth tight loose where
  pure _ := curtails_pure
  raise _ := curtails_raise
  bind := Curtails.bind
  guarded := Curtails.guarded
  recurse := Curtails.recurse

/-!
# Lookups
-/

section

variable {log : Unit -> List ν}

namespace Node

theorem curtails_exprType (catalog : Catalog) (node : Node) (depth : Nat) :
    Curtails limits log depth (node.exprType catalog) (node.exprType catalog) :=
  (congruence_curtails limits log).exprType catalog node depth

theorem curtails_exprTypmod (catalog : Catalog) (node : Node) (depth : Nat) :
    Curtails limits log depth (node.exprTypmod catalog) (node.exprTypmod catalog) :=
  (congruence_curtails limits log).exprTypmod catalog node depth

theorem curtails_exprCollation (node : Node) (depth : Nat) :
    Curtails limits log depth node.exprCollation node.exprCollation :=
  (congruence_curtails limits log).exprCollation node depth

theorem curtails_exprLocation (node : Node) (depth : Nat) :
    Curtails limits log depth node.exprLocation node.exprLocation :=
  (congruence_curtails limits log).exprLocation node depth

theorem curtails_returnsSet (node : Node) (depth : Nat) :
    Curtails limits log depth node.returnsSet node.returnsSet :=
  (congruence_curtails limits log).returnsSet node depth

theorem curtails_relabelToTypmod (catalog : Catalog) (node : Node) (typmod : Int32)
    (depth : Nat) :
    Curtails limits log depth (node.relabelToTypmod catalog typmod)
      (node.relabelToTypmod catalog typmod) :=
  (congruence_curtails limits log).relabelToTypmod catalog node typmod depth

end Node

theorem RawNode.curtails_exprLocation (node : RawNode) (depth : Nat) :
    Curtails limits log depth node.exprLocation node.exprLocation :=
  (congruence_curtails limits log).rawExprLocation node depth

end

/-!
# Walks and transformations
-/

section

variable {callback : Visitor σ ε}
  (hcallback : forall (node : Node) (depth : Nat),
    Curtails limits log depth (callback node) (callback node))

include hcallback

theorem curtails_walkTree (scope : Scope) (node : Node) (depth : Nat) :
    Curtails limits log depth (walkTree callback scope node) (walkTree callback scope node) :=
  (congruence_curtails limits log).walkTree hcallback scope node depth

theorem curtails_walkQueryTree (scope : Scope) (q : Query) (depth : Nat) :
    Curtails limits log depth (walkQueryTree callback scope q)
      (walkQueryTree callback scope q) :=
  (congruence_curtails limits log).walkQueryTree hcallback scope q depth

end

theorem curtails_walkRawTree {callback : RawVisitor σ ε}
    (hcallback : forall (node : RawNode) (depth : Nat),
      Curtails limits log depth (callback node) (callback node))
    (node : RawNode) (depth : Nat) :
    Curtails limits log depth (walkRawTree callback node) (walkRawTree callback node) :=
  (congruence_curtails limits log).walkRawTree hcallback node depth

section

variable {callback : Node -> Traversal σ ε (Option Node)}
  (hcallback : forall (node : Node) (depth : Nat),
    Curtails limits log depth (callback node) (callback node))

include hcallback

theorem curtails_transformTree (scope : Scope) (node : Node) (depth : Nat) :
    Curtails limits log depth (transformTree callback scope node)
      (transformTree callback scope node) :=
  (congruence_curtails limits log).transformTree hcallback scope node depth

theorem curtails_transformQueryTree (scope : Scope) (q : Query) (depth : Nat) :
    Curtails limits log depth (transformQueryTree callback scope q)
      (transformQueryTree callback scope q) :=
  (congruence_curtails limits log).transformQueryTree hcallback scope q depth

end

/-!
# Starting with nothing under way
-/

/-- Under every limit the computation runs out of levels, at the first one beyond the limit,
or ends as under any larger limit. -/
def OnlyCutOff (operation : Traversal σ ε α) : Prop :=
  forall (limit larger : Nat) (state : σ), limit <= larger ->
    (runFrom operation (.start limit) state).1 =
        .error (OfTreeError.ofTreeError (.stackDepthExceeded (limit + 1) limit)) ∨
      ((runFrom operation (.start limit) state).1 =
          (runFrom operation (.start larger) state).1 ∧
        (runFrom operation (.start limit) state).2.2 =
          (runFrom operation (.start larger) state).2.2)

omit [OfTreeError ε] in
/-- What the computation has written down under a limit is where that under any larger
limit begins. -/
def OnlyLogsMore (operation : Traversal (σ × List ν) ε α) : Prop :=
  forall (limit larger : Nat) (state : σ), limit <= larger ->
    (runFrom operation (.start limit) (state, [])).2.2.2 <+:
      (runFrom operation (.start larger) (state, [])).2.2.2

theorem onlyCutOff_of_curtails {operation : Traversal σ ε α}
    (hcurtails : forall limits : Limits,
      Curtails limits (fun _ => ([] : List Unit)) 0 operation operation) :
    OnlyCutOff operation := by
  intro limit larger state hle
  rcases hcurtails ⟨limit, larger, hle⟩ state (Nat.zero_le _) with
    ⟨outcome, after, hlarger, _, htight⟩
  simp only at hlarger htight
  rcases htight (Nat.zero_le _) with hsame | ⟨early, hearly, _⟩
  · right
    simp only [Nesting.start, hsame, hlarger, and_self]
  · left
    simp only [Nesting.start, hearly]

theorem onlyLogsMore_of_curtails {operation : Traversal (σ × List ν) ε α}
    (hcurtails : forall limits : Limits, Curtails limits Prod.snd 0 operation operation) :
    OnlyLogsMore operation := by
  intro limit larger state hle
  rcases hcurtails ⟨limit, larger, hle⟩ (state, []) (Nat.zero_le _) with
    ⟨outcome, after, hlarger, _, htight⟩
  simp only at hlarger htight
  rcases htight (Nat.zero_le _) with hsame | ⟨early, hearly, hbefore⟩
  · simp only [Nesting.start, hsame, hlarger, List.prefix_rfl]
  · simp only [Nesting.start, hearly, hlarger, hbefore]

theorem curtails_run (limits : Limits) (reply : Reply ν σ ε α) (shown : ν) (depth : Nat) :
    Curtails limits (fun _ => ([] : List Unit)) depth (reply.run shown) (reply.run shown) := by
  apply curtails_reply
  intro state
  exact List.prefix_rfl

theorem curtails_logged (limits : Limits) (reply : Reply ν σ ε α) (shown : ν) (depth : Nat) :
    Curtails limits Prod.snd depth (reply.logged.run shown) (reply.logged.run shown) := by
  apply curtails_reply
  intro state
  exact List.prefix_append state.2 [(shown, depth)]

/-- The limit on nesting only cuts off.  Every lookup, walk and transformation that starts
with nothing under way either runs out of levels or ends as it does under any larger limit.
What a walk or a transformation has shown its callback, which knows the depth but not the
limit, is where it begins under any larger limit. -/
theorem nesting_limit_only_cuts_off (catalog : Catalog) (node : Node) (raw : RawNode) (q : Query)
    (typmod : Int32) (scope : Scope) (visitor : Reply Node σ ε Control)
    (rawVisitor : Reply RawNode σ ε Control) (replacer : Reply Node σ ε (Option Node)) :
    OnlyCutOff (node.exprType catalog) ∧
      OnlyCutOff (node.exprTypmod catalog) ∧
      OnlyCutOff node.exprCollation ∧
      OnlyCutOff node.exprLocation ∧
      OnlyCutOff raw.exprLocation ∧
      OnlyCutOff node.returnsSet ∧
      OnlyCutOff (node.relabelToTypmod catalog typmod) ∧
      (OnlyCutOff (walkTree visitor.run scope node) ∧
        OnlyLogsMore (walkTree visitor.logged.run scope node)) ∧
      (OnlyCutOff (walkQueryTree visitor.run scope q) ∧
        OnlyLogsMore (walkQueryTree visitor.logged.run scope q)) ∧
      (OnlyCutOff (transformTree replacer.run scope node) ∧
        OnlyLogsMore (transformTree replacer.logged.run scope node)) ∧
      (OnlyCutOff (transformQueryTree replacer.run scope q) ∧
        OnlyLogsMore (transformQueryTree replacer.logged.run scope q)) ∧
      (OnlyCutOff (walkRawTree rawVisitor.run raw) ∧
        OnlyLogsMore (walkRawTree rawVisitor.logged.run raw)) := by
  refine ⟨?_, ?_, ?_, ?_, ?_, ?_, ?_, ⟨?_, ?_⟩, ⟨?_, ?_⟩, ⟨?_, ?_⟩, ⟨?_, ?_⟩, ⟨?_, ?_⟩⟩
  · exact onlyCutOff_of_curtails fun _ => node.curtails_exprType catalog 0
  · exact onlyCutOff_of_curtails fun _ => node.curtails_exprTypmod catalog 0
  · exact onlyCutOff_of_curtails fun _ => node.curtails_exprCollation 0
  · exact onlyCutOff_of_curtails fun _ => node.curtails_exprLocation 0
  · exact onlyCutOff_of_curtails fun _ => raw.curtails_exprLocation 0
  · exact onlyCutOff_of_curtails fun _ => node.curtails_returnsSet 0
  · exact onlyCutOff_of_curtails fun _ => node.curtails_relabelToTypmod catalog typmod 0
  · exact onlyCutOff_of_curtails fun limits =>
      curtails_walkTree (curtails_run limits visitor) scope node 0
  · exact onlyLogsMore_of_curtails fun limits =>
      curtails_walkTree (curtails_logged limits visitor) scope node 0
  · exact onlyCutOff_of_curtails fun limits =>
      curtails_walkQueryTree (curtails_run limits visitor) scope q 0
  · exact onlyLogsMore_of_curtails fun limits =>
      curtails_walkQueryTree (curtails_logged limits visitor) scope q 0
  · exact onlyCutOff_of_curtails fun limits =>
      curtails_transformTree (curtails_run limits replacer) scope node 0
  · exact onlyLogsMore_of_curtails fun limits =>
      curtails_transformTree (curtails_logged limits replacer) scope node 0
  · exact onlyCutOff_of_curtails fun limits =>
      curtails_transformQueryTree (curtails_run limits replacer) scope q 0
  · exact onlyLogsMore_of_curtails fun limits =>
      curtails_transformQueryTree (curtails_logged limits replacer) scope q 0
  · exact onlyCutOff_of_curtails fun limits =>
      curtails_walkRawTree (curtails_run limits rawVisitor) raw 0
  · exact onlyLogsMore_of_curtails fun limits =>
      curtails_walkRawTree (curtails_logged limits rawVisitor) raw 0

end QueryTree
