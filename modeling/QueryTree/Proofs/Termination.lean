import QueryTree.Proofs.Congruence
import QueryTree.Proofs.Coverage
import QueryTree.Proofs.Outcomes

/-!
# Transformations end

A transformation may go into what its callback has put in the place of a range-table
entry, so the size of the tree does not bound it.  The levels that remain do: each call
takes one before it makes the next, and no run ever gets further than so many calls
deep.  A callback that answers every entry with a larger one uses up all of them.
-/

namespace QueryTree

open Traversal

variable {σ ε α β : Type}

/-!
# Unrolling a recursion
-/

/-- A recursion so many calls deep, and whatever there may be beyond. -/
def unroll (step : (α -> Traversal σ ε β) -> α -> Traversal σ ε β)
    (beyond : α -> Traversal σ ε β) : Nat -> α -> Traversal σ ε β
  | 0 => beyond
  | calls + 1 => step (unroll step beyond calls)

/-- Down to a bound, two computations run alike and give back all levels that they took. -/
def Coincides (limit bound depth : Nat) (one other : Traversal σ ε α) : Prop :=
  depth <= bound -> forall state : σ,
    runFrom one { depth, limit } state = runFrom other { depth, limit } state ∧
      (runFrom one { depth, limit } state).2.1 = { depth, limit }

variable {limit bound depth : Nat}

theorem coincides_self {computation : Traversal σ ε α} (hbalanced : computation.Balanced) :
    Coincides limit bound depth computation computation := by
  intro _ state
  exact ⟨rfl, hbalanced _ state⟩

theorem Coincides.bind {first other : Traversal σ ε α} {next otherNext : α -> Traversal σ ε β}
    (hfirst : Coincides limit bound depth first other)
    (hnext : forall x : α, Coincides limit bound depth (next x) (otherNext x)) :
    Coincides limit bound depth (first >>= next) (other >>= otherNext) := by
  intro hdepth state
  rcases hfirst hdepth state with ⟨hsame, hbalanced⟩
  rw [runFrom_bind, runFrom_bind, ← hsame]
  rcases hrun : runFrom first { depth, limit } state with ⟨outcome, after, between⟩
  rw [hrun] at hbalanced
  simp only at hbalanced
  rw [hbalanced]
  cases outcome with
  | error error => exact ⟨rfl, rfl⟩
  | ok x => exact hnext x hdepth between

/-- As many calls as there are levels left are enough: what lies beyond them is never
reached. -/
theorem coincides_unroll {step : (α -> Traversal σ ε β) -> α -> Traversal σ ε β}
    (hstep : forall (visit other : α -> Traversal σ ε β) (depth : Nat),
      (forall (x : α) (deeper : Nat), depth < deeper ->
        Coincides limit bound deeper (visit x) (other x)) ->
      forall x : α, Coincides limit bound depth (step visit x) (step other x))
    (beyond elsewhere : α -> Traversal σ ε β) {calls more : Nat} (input : α)
    (hcalls : bound - depth < calls) (hmore : bound - depth < more) :
    Coincides limit bound depth (unroll step beyond calls input)
      (unroll step elsewhere more input) := by
  induction calls generalizing more input depth with
  | zero => exact absurd hcalls (Nat.not_lt_zero _)
  | succ calls ih =>
      cases more with
      | zero => exact absurd hmore (Nat.not_lt_zero _)
      | succ more =>
          apply hstep
          intro x deeper hdeeper hbound
          exact ih x (by omega) (by omega) hbound

variable [OfTreeError ε]

theorem Coincides.guarded (hbound : limit <= bound) {step other : Traversal σ ε α}
    (hstep : Coincides limit bound (depth + 1) step other) :
    Coincides limit bound depth (guarded step) (guarded other) := by
  intro _hdepth state
  rw [runFrom_guarded, runFrom_guarded, Nesting.enter?]
  by_cases hlimit : depth + 1 <= limit
  · rcases hstep (Nat.le_trans hlimit hbound) state with ⟨hsame, hbalanced⟩
    constructor
    · simp only [if_pos hlimit, hsame]
    · simp only [if_pos hlimit, hbalanced]
      rfl
  · constructor
    · simp only [if_neg hlimit]
    · simp only [if_neg hlimit]

theorem bounded_eq_unroll (step : (α -> Traversal σ ε β) -> α -> Traversal σ ε β)
    (levels : Nat) :
    recurse.bounded step levels = unroll step (recurse.bounded step 0) levels := by
  induction levels with
  | zero => rfl
  | succ levels ih =>
      funext input
      rw [recurse.bounded, unroll, ih]

theorem Coincides.recurse {step : (α -> Traversal σ ε β) -> α -> Traversal σ ε β}
    (hstep : forall (visit other : α -> Traversal σ ε β) (depth : Nat),
      (forall (x : α) (deeper : Nat), depth < deeper ->
        Coincides limit bound deeper (visit x) (other x)) ->
      forall x : α, Coincides limit bound depth (step visit x) (step other x))
    (input : α) (depth : Nat) :
    Coincides limit bound depth (recurse step input) (recurse step input) := by
  have hbounded : forall (levels : Nat) (x : α) (depth : Nat),
      Coincides limit bound depth (recurse.bounded step levels x)
        (recurse.bounded step levels x) := by
    intro levels
    induction levels with
    | zero =>
        intro x depth
        exact coincides_self fun _ _ => rfl
    | succ levels ih =>
        intro x depth
        exact hstep _ _ depth (fun y deeper _ => ih y deeper) x
  intro hdepth state
  rw [runFrom_recurse]
  exact hbounded (limit - depth + 1) input depth hdepth state

theorem congruence_coincides (hbound : limit <= bound) :
    Congruence (fun _ => Coincides limit bound :
      forall α : Type, Nat -> Traversal σ ε α -> Traversal σ ε α -> Prop) where
  pure _ _ := coincides_self fun _ _ => rfl
  raise _ _ := coincides_self fun _ _ => rfl
  bind := Coincides.bind
  guarded := Coincides.guarded hbound
  recurse := Coincides.recurse

/-!
# Transformations
-/

/-- One step of a transformation, over a recursion of its own. -/
def transformStep (callback : Node -> Traversal σ ε (Option Node)) (scope : Scope)
    (transform : Transformer σ ε) (node : Node) : Traversal σ ε Node := do
  match ← callback node with
  | some replacement => return replacement
  | none => transformBelow transform scope node

theorem runFrom_transformTree (callback : Node -> Traversal σ ε (Option Node)) (scope : Scope)
    (node : Node) (nesting : Nesting) (state : σ) :
    runFrom (transformTree callback scope node) nesting state =
      runFrom (recurse.bounded (transformStep callback scope) (nesting.remaining + 1) node) nesting
        state :=
  runFrom_recurse (transformStep callback scope) node nesting state

section

variable {callback : Node -> Traversal σ ε (Option Node)}
  (hcallback : forall node : Node, (callback node).Balanced) (scope : Scope)

include hcallback

theorem coincides_transformStep (hbound : limit <= bound) (transform other : Transformer σ ε)
    (depth : Nat)
    (htransform : forall (node : Node) (deeper : Nat), depth < deeper ->
      Coincides limit bound deeper (transform node) (other node))
    (node : Node) :
    Coincides limit bound depth (transformStep callback scope transform node)
      (transformStep callback scope other node) := by
  apply Coincides.bind (coincides_self (hcallback node))
  intro answer
  cases answer with
  | some replacement => exact coincides_self fun _ _ => rfl
  | none => exact (congruence_coincides hbound).transformBelow htransform scope node

/-- Unrolled to more calls than levels remain, a transformation is what it was, whatever
lies beyond, and it gives back all levels. -/
theorem coincides_transformTree (beyond : Transformer σ ε) {calls : Nat} (node : Node)
    {nesting : Nesting} (hcalls : nesting.remaining < calls) (state : σ) :
    runFrom (unroll (transformStep callback scope) beyond calls node) nesting state =
        runFrom (transformTree callback scope node) nesting state ∧
      (runFrom (transformTree callback scope node) nesting state).2.1 = nesting := by
  -- a start beyond the limit has no levels left, like a start at the limit
  have hremaining : max nesting.limit nesting.depth - nesting.depth = nesting.remaining := by
    rw [Nesting.remaining]
    omega
  have hmore : max nesting.limit nesting.depth - nesting.depth < nesting.remaining + 1 := by
    omega
  rw [← hremaining] at hcalls
  have hsame := coincides_unroll
    (coincides_transformStep hcallback scope (Nat.le_max_left nesting.limit nesting.depth))
    beyond (recurse.bounded (transformStep callback scope) 0) node hcalls hmore
    (Nat.le_max_right _ _) state
  rw [← bounded_eq_unroll] at hsame
  rw [runFrom_transformTree, ← hsame.left]
  exact ⟨rfl, hsame.right⟩

/-- A transformation satisfies the equation of a recursion without any bound. -/
theorem runFrom_transformTree_eq (node : Node) (nesting : Nesting) (state : σ) :
    runFrom (transformTree callback scope node) nesting state =
      runFrom (transformStep callback scope (transformTree callback scope) node) nesting state := by
  let beyond : Transformer σ ε := recurse.bounded (transformStep callback scope) 0
  have hunrolled := coincides_transformTree hcallback scope beyond node
    (Nat.lt_succ_self nesting.remaining) state
  have hbelow : forall (child : Node) (deeper : Nat), nesting.depth < deeper ->
      Coincides nesting.limit (max nesting.limit nesting.depth) deeper
        (unroll (transformStep callback scope) beyond nesting.remaining child)
        (transformTree callback scope child) := by
    intro child deeper hdeeper hbound state
    have hcalls : Nesting.remaining { depth := deeper, limit := nesting.limit } <
        nesting.remaining := by
      simp only [Nesting.remaining]
      omega
    have hchild := coincides_transformTree hcallback scope beyond child hcalls state
    rw [hchild.left]
    exact ⟨rfl, hchild.right⟩
  have hstep := coincides_transformStep hcallback scope (Nat.le_max_left _ _) _ _ nesting.depth
    hbelow node (Nat.le_max_right _ _) state
  rw [← hunrolled.left]
  exact hstep.left

end

/-!
# Growing entries
-/

namespace Node

/-- Every range table in the tree holds range-table entries only. -/
def TablesOfEntries (node : Node) : Prop :=
  forall inner member : Node, inner ∈ node.stored -> member ∈ inner.rangeTable ->
    member.tag = .rangeTblEntry

theorem TablesOfEntries.of_mem_slots {node child : Node} (htables : node.TablesOfEntries)
    (hchild : child ∈ node.slots) : child.TablesOfEntries := by
  intro inner member hinner
  exact htables inner member (mem_stored_of_mem_slots hchild hinner)

theorem rangeTable_of_plain {node : Node} (hplain : node.Plain) : node.rangeTable = [] := by
  cases node with
  | query q => exact absurd rfl hplain.left
  | _ => rfl

/-- An entry for a subquery that has a range table of its own. -/
def IsGrown (node : Node) : Prop :=
  exists (entry : RangeTblEntry) (q : Query) (securityBarrier : Bool),
    node = .rangeTblEntry entry ∧ entry.kind = .subquery (.query q) securityBarrier ∧
      q.rtable ≠ [] ∧ node.TablesOfEntries

theorem IsGrown.tag {node : Node} (hgrown : node.IsGrown) : node.tag = .rangeTblEntry := by
  rcases hgrown with ⟨entry, q, securityBarrier, rfl, _⟩
  rfl

end Node

/-- The callback answers every entry with one that has grown, and leaves all other nodes. -/
structure GrowsEntries (callback : Node -> Traversal σ ε (Option Node)) : Prop where
  entry : forall (entry : RangeTblEntry) (nesting : Nesting) (state : σ),
    (Node.rangeTblEntry entry).TablesOfEntries ->
      exists (replacement : Node) (after : σ),
        runFrom (callback (.rangeTblEntry entry)) nesting state =
          (.ok (some replacement), nesting, after) ∧ replacement.IsGrown
  other : forall (node : Node) (nesting : Nesting) (state : σ), node.tag ≠ .rangeTblEntry ->
    exists after : σ, runFrom (callback node) nesting state = (.ok none, nesting, after)

/-- What becomes of a node: an entry grows, and nothing with a range table has a result. -/
def Inflates (node answer : Node) : Prop :=
  (node.tag = .rangeTblEntry -> answer.IsGrown) ∧ node.rangeTable = []

/-- The error of the first level beyond the limit. -/
def IsCutOff (limit : Nat) (error : ε) : Prop :=
  error = OfTreeError.ofTreeError (.stackDepthExceeded (limit + 1) limit)

section

variable {scope : Scope} {transform : Transformer σ ε}
  (hdepth : depth <= limit)
  (htransform : forall (child : Node) (deeper : Nat), depth < deeper -> deeper <= limit ->
    child.TablesOfEntries ->
      Ends limit deeper (transform child) (Inflates child) (IsCutOff limit))

include hdepth

omit htransform in
theorem isCutOff_of_limit_le (hcut : limit <= depth) :
    IsCutOff limit (OfTreeError.ofTreeError (.stackDepthExceeded (depth + 1) limit) : ε) := by
  rw [Nat.le_antisymm hdepth hcut]
  exact rfl

include htransform

/-- No entry has a result: its contents are those of the grown entry, among them a query with
a range table. -/
theorem ends_transformEntry_grown (hshow : scope.showEntries = true)
    (hsubqueries : scope.skipSubqueries = false) {member : Node}
    (hmember : member.tag = .rangeTblEntry) (htables : member.TablesOfEntries) :
    Ends limit depth (transformEntry transform scope member) (fun _ => False)
      (IsCutOff limit) := by
  have hself : depth < limit ->
      Ends limit (depth + 1) (if scope.showEntries then transform member else pure member)
        Node.IsGrown (IsCutOff limit) := by
    intro hlimit
    rw [if_pos hshow]
    apply Ends.mono (htransform member (depth + 1) (Nat.lt_succ_self depth) hlimit htables)
    intro answer hanswer
    exact hanswer.left hmember
  have hother : forall answer : Node, answer.IsGrown -> answer.tag ≠ .rangeTblEntry ->
      IsCutOff limit (OfTreeError.ofTreeError
        (.unrecognizedNode answer.tag .transformRangeTable) : ε) := by
    intro answer hgrown htag
    exact absurd hgrown.tag htag
  have hcontents : depth < limit -> forall (entry : RangeTblEntry) (child : Node),
      (Node.rangeTblEntry entry).IsGrown -> child ∈ entry.contents scope ->
        Ends limit (depth + 1) (transform child) (Inflates child) (IsCutOff limit) := by
    rintro hlimit entry child ⟨_, _, _, _, _, _, hgrownTables⟩ hchild
    apply htransform child (depth + 1) (Nat.lt_succ_self depth) hlimit
    exact hgrownTables.of_mem_slots (RangeTblEntry.mem_slots_of_mem_contents hchild)
  apply Ends.mono (ends_transformEntry (isCutOff_of_limit_le hdepth) hself hother hcontents)
  rintro answer ⟨_, entry, contents, ⟨other, q, securityBarrier, hsame, hkind, hrtable, _⟩,
    hinflated, _⟩
  cases hsame
  rw [RangeTblEntry.contents, hkind, RteKind.contents, hsubqueries] at hinflated
  rcases hinflated with _ | ⟨hquery, _⟩
  exact hrtable hquery.right

theorem ends_transformQuery_grown (hshow : scope.showEntries = true)
    (hrangeTable : scope.skipRangeTable = false) (hsubqueries : scope.skipSubqueries = false)
    {q : Query} (htables : (Node.query q).TablesOfEntries) :
    Ends limit depth (transformQuery transform scope q) (fun _ => q.rtable = [])
      (IsCutOff limit) := by
  have hbelow : depth < limit -> forall child : Node, child ∈ (Node.query q).slots ->
      Ends limit (depth + 1) (transform child) (Inflates child) (IsCutOff limit) := by
    intro hlimit child hchild
    exact htransform child (depth + 1) (Nat.lt_succ_self depth) hlimit
      (htables.of_mem_slots hchild)
  have hmember : depth < limit -> scope.skipRangeTable = false ->
      forall member : Node, member ∈ q.rtable ->
        Ends limit (depth + 1) (transformEntry transform scope member) (fun _ => False)
          (IsCutOff limit) := by
    intro hlimit _ member hmember
    have htag : member.tag = .rangeTblEntry :=
      htables (.query q) member (Node.mem_stored_self _) hmember
    apply ends_transformEntry_grown hlimit _ hshow hsubqueries htag
    · exact htables.of_mem_slots (Query.mem_slots_of_mem_rtable hmember)
    · intro child deeper hdeeper
      exact htransform child deeper (Nat.lt_of_succ_lt hdeeper)
  apply Ends.mono (ends_transformQuery (isCutOff_of_limit_le hdepth)
    (fun hlimit clause hclause => hbelow hlimit clause (Query.mem_slots_of_mem_clauses hclause))
    hmember fun hlimit _ cte hcte => hbelow hlimit cte (Query.mem_slots_of_mem_cteList hcte))
  rintro answer ⟨_, hanswer⟩
  have hnone := hanswer.rtable hrangeTable
  rcases hlist : q.rtable with _ | ⟨first, rest⟩
  · rfl
  · rw [hlist, List.forall₂_cons_left_iff] at hnone
    rcases hnone with ⟨_, _, hnever, _⟩
    cases hnever

end

section

variable {callback : Node -> Traversal σ ε (Option Node)} (hgrows : GrowsEntries callback)
  {scope : Scope} (hshow : scope.showEntries = true) (hrangeTable : scope.skipRangeTable = false)
  (hsubqueries : scope.skipSubqueries = false)

include hgrows hshow hrangeTable hsubqueries

/-- One step: entries grow, everything else is rebuilt from what its parts become. -/
theorem ends_transformStep_grown {transform : Transformer σ ε} (hdepth : depth <= limit)
    (htransform : forall (child : Node) (deeper : Nat), depth < deeper -> deeper <= limit ->
      child.TablesOfEntries ->
        Ends limit deeper (transform child) (Inflates child) (IsCutOff limit))
    {node : Node} (htables : node.TablesOfEntries) :
    Ends limit depth (transformStep callback scope transform node) (Inflates node)
      (IsCutOff limit) := by
  by_cases htag : node.tag = .rangeTblEntry
  · cases node with
    | rangeTblEntry entry =>
        intro state
        rcases hgrows.entry entry { depth, limit } state htables with
          ⟨replacement, after, hrun, hgrown⟩
        left
        refine ⟨replacement, after, ?_, fun _ => hgrown, rfl⟩
        rw [transformStep, runFrom_bind, hrun]
        rfl
    | _ => cases htag
  · have hcallback : Ends limit depth (callback node) (· = none) (IsCutOff limit) := by
      intro state
      rcases hgrows.other node { depth, limit } state htag with ⟨after, hrun⟩
      exact Or.inl ⟨none, after, hrun, rfl⟩
    apply hcallback.bind
    rintro _ rfl
    induction node using Node.byParts with
    | query q =>
        apply Ends.map (ends_transformQuery_grown hdepth htransform hshow hrangeTable hsubqueries
          htables)
        intro answer hrtable
        exact ⟨nofun, hrtable⟩
    | entry entry => exact absurd rfl htag
    | plain node hplain =>
        apply Ends.mono (ends_transformBelow_of_plain hplain (isCutOff_of_limit_le hdepth)
          fun hlimit child hchild => htransform child (depth + 1) (Nat.lt_succ_self depth) hlimit
            (htables.of_mem_slots (Node.mem_slots_of_mem_children hplain hchild)))
        intro answer _
        exact ⟨fun hentry => absurd hentry htag, Node.rangeTable_of_plain hplain⟩

theorem ends_transformTree_grown {node : Node} (htables : node.TablesOfEntries)
    (hdepth : depth <= limit) :
    Ends limit depth (transformTree callback scope node) (Inflates node) (IsCutOff limit) := by
  apply Ends.recurse (fun node depth => node.TablesOfEntries ∧ depth <= limit)
    (fun node _ => Inflates node) _ ⟨htables, hdepth⟩
  rintro transform depth htransform node ⟨htables, hdepth⟩
  apply ends_transformStep_grown hgrows hshow hrangeTable hsubqueries hdepth _ htables
  intro child deeper hdeeper hlimit hchild
  exact htransform child deeper hdeeper hlimit ⟨hchild, hlimit⟩

/-- The transformation of a query with a range table goes on until the limit stops it. -/
theorem transformQueryTree_of_growsEntries {q : Query} (htables : (Node.query q).TablesOfEntries)
    (hrtable : q.rtable ≠ []) {nesting : Nesting} (hdepth : nesting.depth <= nesting.limit)
    (state : σ) :
    (runFrom (transformQueryTree callback scope q) nesting state).1 =
      .error (OfTreeError.ofTreeError (.stackDepthExceeded (nesting.limit + 1) nesting.limit)) := by
  have hends : Ends nesting.limit nesting.depth (transformQueryTree callback scope q)
      (fun _ => q.rtable = []) (IsCutOff nesting.limit) := by
    apply ends_transformQuery_grown hdepth _ hshow hrangeTable hsubqueries htables
    intro child deeper _ hlimit hchild
    exact ends_transformTree_grown hgrows hshow hrangeTable hsubqueries hchild hlimit
  rcases hends state with ⟨answer, after, _, hempty⟩ | ⟨error, after, hrun, herror⟩
  · exact absurd hempty hrtable
  · rw [hrun, herror]

end

/-- Every transformation ends, whatever its callback does to the tree.  It is its own
recursion without any bound, unrolled to more calls than levels remain it is still the same,
whatever lies beyond those, and it gives back all levels with its answer or its error.  If
the callback answers every range-table entry with a larger one, then the limit is what ends
the transformation of a query with a range table. -/
theorem transformTree_terminates (callback : Node -> Traversal σ ε (Option Node))
    (scope : Scope) :
    ((forall node : Node, (callback node).Balanced) ->
      forall (node : Node) (nesting : Nesting) (state : σ),
        runFrom (transformTree callback scope node) nesting state =
            runFrom (transformStep callback scope (transformTree callback scope) node) nesting
              state ∧
          (forall (beyond : Transformer σ ε) (calls : Nat), nesting.remaining < calls ->
            runFrom (unroll (transformStep callback scope) beyond calls node) nesting state =
              runFrom (transformTree callback scope node) nesting state) ∧
          exists (outcome : Except ε Node) (after : σ),
            runFrom (transformTree callback scope node) nesting state =
              (outcome, nesting, after)) ∧
      (GrowsEntries callback -> scope.showEntries = true -> scope.skipRangeTable = false ->
        scope.skipSubqueries = false ->
        forall q : Query, (Node.query q).TablesOfEntries -> q.rtable ≠ [] ->
          forall (nesting : Nesting) (state : σ), nesting.depth <= nesting.limit ->
            (runFrom (transformQueryTree callback scope q) nesting state).1 =
              .error (OfTreeError.ofTreeError
                (.stackDepthExceeded (nesting.limit + 1) nesting.limit))) := by
  constructor
  · intro hcallback node nesting state
    refine ⟨runFrom_transformTree_eq hcallback scope node nesting state, ?_, ?_⟩
    · intro beyond calls hcalls
      exact (coincides_transformTree hcallback scope beyond node hcalls state).left
    · have hnesting := (coincides_transformTree hcallback scope (transformTree callback scope) node
        (Nat.lt_succ_self nesting.remaining) state).right
      exact ⟨_, _, Prod.ext rfl (Prod.ext hnesting rfl)⟩
  · intro hgrows hshow hrangeTable hsubqueries q htables hrtable nesting state hdepth
    exact transformQueryTree_of_growsEntries hgrows hshow hrangeTable hsubqueries htables hrtable
      hdepth state

/-- A query over one entry. -/
def Query.fromEntry (entry : RangeTblEntry) : Query :=
  { Query.bare with rtable := [.rangeTblEntry entry] }

/-- The entry in a subquery of its own. -/
def RangeTblEntry.wrapped (entry : RangeTblEntry) : RangeTblEntry where
  kind := .subquery (.query (.fromEntry entry)) false
  header := entry.header
  securityQuals := []

/-- An entry for a table. -/
def RangeTblEntry.table : RangeTblEntry where
  kind := .relation 1 'r' none
  header := {
    correlation := none, eref := { name := "t", colnames := [] }, lateral := false, inh := false,
    inFromClause := true }
  securityQuals := []

/-- Wrap every entry, and count them. -/
def wrapEntries : Node -> Traversal Nat TreeError (Option Node)
  | .rangeTblEntry entry => do
      modifyState (· + 1)
      return some (.rangeTblEntry entry.wrapped)
  | _ => return none

theorem Node.TablesOfEntries.of_slots {node : Node}
    (htable : forall member : Node, member ∈ node.rangeTable -> member.tag = .rangeTblEntry)
    (hslots : forall child : Node, child ∈ node.slots -> child.TablesOfEntries) :
    node.TablesOfEntries := by
  intro inner member hinner hmember
  rw [stored_eq] at hinner
  rcases List.mem_cons.mp hinner with rfl | hbelow
  · exact htable member hmember
  · rcases List.mem_flatMap.mp hbelow with ⟨child, hchild, hstored⟩
    exact hslots child hchild inner member hstored hmember

theorem Query.tablesOfEntries_fromEntry {entry : RangeTblEntry}
    (hentry : (Node.rangeTblEntry entry).TablesOfEntries) :
    (Node.query (.fromEntry entry)).TablesOfEntries := by
  have hslots : (Node.query (.fromEntry entry)).slots = [.rangeTblEntry entry] := by
    simp [Node.slots, slots, fromEntry, bare]
  apply Node.TablesOfEntries.of_slots
  · exact List.forall_mem_singleton.mpr rfl
  · rw [hslots]
    exact List.forall_mem_singleton.mpr hentry

theorem growsEntries_wrapEntries : GrowsEntries wrapEntries where
  entry := by
    intro entry nesting count hentry
    refine ⟨_, _, rfl, entry.wrapped, .fromEntry entry, false, rfl, rfl, nofun, ?_⟩
    apply Node.TablesOfEntries.of_slots
    · nofun
    · exact List.forall_mem_singleton.mpr (Query.tablesOfEntries_fromEntry hentry)
  other := by
    intro node nesting count htag
    cases node with
    | rangeTblEntry entry => exact absurd rfl htag
    | _ => exact ⟨count, rfl⟩

/-- Five levels end the wrapping of a table in one subquery after the other. -/
theorem transformTree_terminates_wrapEntries :
    GrowsEntries wrapEntries ∧
      (runFrom (transformQueryTree wrapEntries { showEntries := true } (.fromEntry .table))
        (.start 5) 0).1 = .error (.stackDepthExceeded 6 5) ∧
      exists (outcome : Except TreeError Node) (count : Nat),
        runFrom (transformTree wrapEntries { showEntries := true } (.query (.fromEntry .table)))
          (.start 5) 0 = (outcome, .start 5, count) := by
  have hbalanced : forall node : Node, (wrapEntries node).Balanced := by
    intro node nesting count
    cases node <;> rfl
  have htable : (Node.rangeTblEntry .table).TablesOfEntries := by
    apply Node.TablesOfEntries.of_slots
    · nofun
    · nofun
  have hterminates := transformTree_terminates wrapEntries { showEntries := true }
  refine ⟨growsEntries_wrapEntries, ?_, ?_⟩
  · exact hterminates.right growsEntries_wrapEntries rfl rfl rfl (.fromEntry .table)
      (Query.tablesOfEntries_fromEntry htable) nofun (.start 5) 0 (Nat.zero_le 5)
  · exact (hterminates.left hbalanced (.query (.fromEntry .table)) (.start 5) 0).right.right

end QueryTree
