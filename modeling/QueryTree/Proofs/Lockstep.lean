import QueryTree.Node.Rebuild
import QueryTree.Proofs.WalkOrder
import QueryTree.Traversal.Transform

/-!
# Walks and transformations in lockstep

A transformation that replaces nothing does, step by step, what a walk does that
never stops.  It shows the same nodes at the same depths, and where the walk goes
on, it gives back what it was given.  Where the walk fails it fails as well.  The two
failures are the same one, except that a range table with something else than entries
is noticed at different moments.
-/

namespace QueryTree

open Traversal Step

variable {σ ε α β : Type}

/-!
# Mirroring
-/

/-- Run alike, the walk goes on and the transformation gives the answer, and both leave
the same nesting and state; or both fail.  Strictly speaking, they then fail alike. -/
def Mirrors (strict : Prop) (walk : Traversal σ ε Control) (transform : Traversal σ ε α)
    (answer : α) : Prop :=
  forall (nesting : Nesting) (state : σ),
    (exists after : Nesting × σ,
      runFrom walk nesting state = (.ok .proceed, after) ∧
        runFrom transform nesting state = (.ok answer, after)) ∨
    (exists (error other : ε) (after elsewhere : Nesting × σ),
      runFrom walk nesting state = (.error error, after) ∧
        runFrom transform nesting state = (.error other, elsewhere) ∧
          (strict -> other = error ∧ elsewhere = after))

variable {strict : Prop}

theorem mirrors_pure (answer : α) :
    Mirrors strict (pure .proceed : Traversal σ ε Control) (pure answer) answer := by
  intro nesting state
  exact Or.inl ⟨(nesting, state), rfl, rfl⟩

/-- The computation fails, wherever it starts. -/
def Fails (computation : Traversal σ ε α) : Prop :=
  forall (nesting : Nesting) (state : σ), exists (error : ε) (after : Nesting × σ),
    runFrom computation nesting state = (.error error, after)

theorem Fails.guarded [OfTreeError ε] {computation : Traversal σ ε α}
    (hfails : Fails computation) : Fails (guarded computation) := by
  intro nesting state
  rw [runFrom_guarded]
  cases nesting.enter? with
  | error error => exact ⟨_, _, rfl⟩
  | ok deeper =>
      rcases hfails deeper state with ⟨error, after, hrun⟩
      simp only [hrun]
      exact ⟨error, _, rfl⟩

/-- Two computations that fail mirror each other, strictness aside. -/
theorem mirrors_of_fails (hstrict : ¬ strict) {walk : Traversal σ ε Control}
    {transform : Traversal σ ε α} (answer : α) (hwalk : Fails walk) (htransform : Fails transform) :
    Mirrors strict walk transform answer := by
  intro nesting state
  rcases hwalk nesting state with ⟨error, after, hwalkRun⟩
  rcases htransform nesting state with ⟨other, elsewhere, htransformRun⟩
  refine Or.inr ⟨error, other, after, elsewhere, hwalkRun, htransformRun, ?_⟩
  intro h
  exact absurd h hstrict

namespace Mirrors

theorem bind {walk rest : Traversal σ ε Control} {transform : Traversal σ ε α}
    {next : α -> Traversal σ ε β} {answer : α} {final : β}
    (hfirst : Mirrors strict walk transform answer)
    (hnext : Mirrors strict rest (next answer) final) :
    Mirrors strict (andThen walk rest) (transform >>= next) final := by
  intro nesting state
  rw [runFrom_andThen, runFrom_bind]
  rcases hfirst nesting state with
    ⟨after, hwalk, htransform⟩ | ⟨error, other, after, elsewhere, hwalk, htransform, hsame⟩
  · rw [hwalk, htransform]
    exact hnext after.1 after.2
  · rw [hwalk, htransform]
    exact Or.inr ⟨error, other, after, elsewhere, rfl, rfl, hsame⟩

theorem map {walk : Traversal σ ε Control} {transform : Traversal σ ε α} {answer : α}
    (hmirrors : Mirrors strict walk transform answer) (f : α -> β) :
    Mirrors strict walk (transform >>= fun x => pure (f x)) (f answer) := by
  intro nesting state
  rw [runFrom_bind]
  rcases hmirrors nesting state with
    ⟨after, hwalk, htransform⟩ | ⟨error, other, after, elsewhere, hwalk, htransform, hsame⟩
  · rw [hwalk, htransform]
    exact Or.inl ⟨after, rfl, rfl⟩
  · rw [hwalk, htransform]
    exact Or.inr ⟨error, other, after, elsewhere, rfl, rfl, hsame⟩

/-- Members that mirror each other one by one do so as a list. -/
theorem mapM {visit : α -> Traversal σ ε Control} {transform : α -> Traversal σ ε α}
    {xs : List α} (heach : forall x : α, x ∈ xs -> Mirrors strict (visit x) (transform x) x) :
    Mirrors strict (visitAll visit xs) (xs.mapM transform) xs := by
  induction xs with
  | nil => exact mirrors_pure []
  | cons x rest ih =>
      rw [List.mapM_cons]
      apply Mirrors.bind (heach x List.mem_cons_self)
      apply Mirrors.map
      apply ih
      intro y hy
      exact heach y (List.mem_cons_of_mem x hy)

theorem guarded [OfTreeError ε] {walk : Traversal σ ε Control} {transform : Traversal σ ε α}
    {answer : α} (hmirrors : Mirrors strict walk transform answer) :
    Mirrors strict (guarded walk) (guarded transform) answer := by
  intro nesting state
  rw [runFrom_guarded, runFrom_guarded]
  cases nesting.enter? with
  | error error => exact Or.inr ⟨_, _, _, _, rfl, rfl, fun _ => ⟨rfl, rfl⟩⟩
  | ok deeper =>
      rcases hmirrors deeper state with
        ⟨after, hwalk, htransform⟩ | ⟨error, other, after, elsewhere, hwalk, htransform, hsame⟩
      · simp only [hwalk, htransform]
        exact Or.inl ⟨_, rfl, rfl⟩
      · simp only [hwalk, htransform]
        refine Or.inr ⟨error, other, _, _, rfl, rfl, ?_⟩
        intro hstrict
        rcases hsame hstrict with ⟨herror, hafter⟩
        rw [herror, hafter]
        exact ⟨rfl, rfl⟩

/-- Steps that keep recursions mirrored, on the inputs that matter, make recursions
that mirror each other there. -/
theorem recurse [OfTreeError ε]
    {walkStep : (α -> Traversal σ ε Control) -> α -> Traversal σ ε Control}
    {step : (α -> Traversal σ ε α) -> α -> Traversal σ ε α} (matters : α -> Prop)
    (hstep : forall (visit : α -> Traversal σ ε Control) (transform : α -> Traversal σ ε α),
      (forall x : α, matters x -> Mirrors strict (visit x) (transform x) x) ->
        forall x : α, matters x -> Mirrors strict (walkStep visit x) (step transform x) x)
    {input : α} (hinput : matters input) :
    Mirrors strict (Traversal.recurse walkStep input) (Traversal.recurse step input) input := by
  have hbounded : forall (levels : Nat) (x : α), matters x ->
      Mirrors strict (recurse.bounded walkStep levels x) (recurse.bounded step levels x) x := by
    intro levels
    induction levels with
    | zero =>
        intro x _hx nesting state
        exact Or.inr ⟨_, _, _, _, rfl, rfl, fun _ => ⟨rfl, rfl⟩⟩
    | succ levels ih =>
        exact hstep (recurse.bounded walkStep levels) (recurse.bounded step levels) ih
  intro nesting state
  rw [runFrom_recurse, runFrom_recurse]
  exact hbounded (nesting.remaining + 1) input hinput nesting state

/-- The transformation succeeds where the walk does, and then with the answer. -/
theorem ok_iff {walk : Traversal σ ε Control} {transform : Traversal σ ε α} {answer : α}
    (hmirrors : Mirrors strict walk transform answer) (nesting : Nesting) (state : σ) (x : α) :
    (runFrom transform nesting state).1 = .ok x <->
      x = answer ∧ exists control : Control, (runFrom walk nesting state).1 = .ok control := by
  rcases hmirrors nesting state with
    ⟨after, hwalk, htransform⟩ | ⟨error, other, after, elsewhere, hwalk, htransform, _⟩
  · rw [hwalk, htransform]
    constructor
    · intro hok
      cases hok
      exact ⟨rfl, .proceed, rfl⟩
    · rintro ⟨rfl, _⟩
      rfl
  · rw [hwalk, htransform]
    constructor
    · intro hok
      cases hok
    · rintro ⟨_, control, hok⟩
      cases hok

/-- A walk that is mirrored does not stop. -/
theorem walk_outcome {walk : Traversal σ ε Control} {transform : Traversal σ ε α} {answer : α}
    (hmirrors : Mirrors strict walk transform answer) (nesting : Nesting) (state : σ) :
    exists outcome : Except ε Unit,
      (runFrom walk nesting state).1 = outcome.map fun _ => .proceed := by
  rcases hmirrors nesting state with ⟨after, hwalk, _⟩ | ⟨error, _, after, _, hwalk, _⟩
  · rw [hwalk]
    exact ⟨.ok (), rfl⟩
  · rw [hwalk]
    exact ⟨.error error, rfl⟩

/-- Strictly speaking, the run of the transformation is that of the walk, apart from the
answer. -/
theorem transform_run {walk : Traversal σ ε Control} {transform : Traversal σ ε α} {answer : α}
    (hmirrors : Mirrors True walk transform answer) {nesting : Nesting} {state : σ}
    {outcome : Except ε Unit} {after : Nesting × σ}
    (hrun : runFrom walk nesting state = (outcome.map fun _ => .proceed, after)) :
    runFrom transform nesting state = (outcome.map fun _ => answer, after) := by
  rcases hmirrors nesting state with
    ⟨other, hwalk, htransform⟩ | ⟨error, _, other, _, hwalk, htransform, hsame⟩
  · rw [hwalk] at hrun
    rw [htransform]
    cases outcome with
    | ok value =>
        cases hrun
        rfl
    | error error => cases hrun
  · rcases hsame trivial with ⟨rfl, rfl⟩
    rw [hwalk] at hrun
    rw [htransform]
    cases outcome with
    | ok value => cases hrun
    | error error =>
        cases hrun
        rfl

end Mirrors

/-!
# Trees

In what follows `visit` and `transform` are the recursions of a walk and of a
transformation that mirror each other on every node.
-/

variable [OfTreeError ε] {scope : Scope} {visit : Visitor σ ε} {transform : Transformer σ ε}

theorem transformEntry_eq (node : Node) :
    transformEntry transform scope node =
      guarded
        ((if scope.showEntries then transform node else pure node) >>= fun node =>
          expectEntry .transformRangeTable node >>= fun entry =>
            (entry.contents scope).mapM transform >>= fun contents =>
              pure (.rangeTblEntry (entry.withContents scope contents))) := by
  rw [transformEntry]
  cases scope.showEntries <;> rfl

theorem transformQuery_eq (q : Query) :
    transformQuery transform scope q =
      guarded
        (q.clauses.mapM transform >>= fun clauses =>
          (if scope.skipRangeTable then pure q.rtable
            else transformRangeTable transform scope q.rtable) >>= fun rtable =>
            (if scope.skipCtes then pure q.cteList
              else q.cteList.mapM transform) >>= fun cteList =>
              pure { q.withClauses clauses with rtable, cteList }) := by
  rw [transformQuery]
  cases scope.skipRangeTable <;> cases scope.skipCtes <;> rfl

theorem transformBelow_of_plain {node : Node} (hplain : node.Plain) :
    transformBelow transform scope node =
      guarded (node.children.mapM transform >>= fun children => pure (node.rebuild children)) := by
  cases node with
  | query q => exact absurd rfl hplain.left
  | rangeTblEntry entry => exact absurd rfl hplain.right
  | _ => rfl

theorem transformQuery_eq_ok {q answer : Query} {nesting : Nesting} {state : σ}
    {after : Nesting × σ} :
    runFrom (transformQuery transform scope q) nesting state = (.ok answer, after) <->
      nesting.depth + 1 <= nesting.limit ∧
        exists (clauses rtable cteList : List Node) (afterClauses afterTable inner : Nesting × σ),
          runFrom (q.clauses.mapM transform) { nesting with depth := nesting.depth + 1 } state =
            (.ok clauses, afterClauses) ∧
          runFrom (if scope.skipRangeTable then pure q.rtable
              else transformRangeTable transform scope q.rtable) afterClauses.1 afterClauses.2 =
            (.ok rtable, afterTable) ∧
          runFrom (if scope.skipCtes then pure q.cteList else q.cteList.mapM transform)
            afterTable.1 afterTable.2 = (.ok cteList, inner) ∧
          answer = { q.withClauses clauses with rtable, cteList } ∧
          after = (inner.1.leave, inner.2) := by
  rw [transformQuery_eq, runFrom_guarded_eq_ok]
  constructor
  · rintro ⟨hlimit, inner, hinner, hafter⟩
    rcases runFrom_bind_eq_ok.mp hinner with ⟨clauses, afterClauses, hclauses, hmore⟩
    rcases runFrom_bind_eq_ok.mp hmore with ⟨rtable, afterTable, htable, hmore⟩
    rcases runFrom_bind_eq_ok.mp hmore with ⟨cteList, _, hctes, hanswer⟩
    cases hanswer
    exact ⟨hlimit, clauses, rtable, cteList, afterClauses, afterTable, _, hclauses, htable, hctes,
      rfl, hafter⟩
  · rintro ⟨hlimit, clauses, rtable, cteList, afterClauses, afterTable, inner, hclauses, htable,
      hctes, rfl, hafter⟩
    refine ⟨hlimit, inner, ?_, hafter⟩
    apply runFrom_bind_eq_ok.mpr
    refine ⟨clauses, afterClauses, hclauses, ?_⟩
    apply runFrom_bind_eq_ok.mpr
    refine ⟨rtable, afterTable, htable, ?_⟩
    apply runFrom_bind_eq_ok.mpr
    exact ⟨cteList, inner, hctes, rfl⟩

theorem transformBelow_eq_ok {node : Node} (hplain : node.Plain) {answer : Node}
    {nesting : Nesting} {state : σ} {after : Nesting × σ} :
    runFrom (transformBelow transform scope node) nesting state = (.ok answer, after) <->
      nesting.depth + 1 <= nesting.limit ∧
        exists (children : List Node) (inner : Nesting × σ),
          runFrom (node.children.mapM transform) { nesting with depth := nesting.depth + 1 }
            state = (.ok children, inner) ∧
          answer = node.rebuild children ∧ after = (inner.1.leave, inner.2) := by
  rw [transformBelow_of_plain hplain, runFrom_guarded_eq_ok]
  constructor
  · rintro ⟨hlimit, inner, hinner, hafter⟩
    rcases runFrom_bind_eq_ok.mp hinner with ⟨children, _, hchildren, hanswer⟩
    cases hanswer
    exact ⟨hlimit, children, _, hchildren, rfl, hafter⟩
  · rintro ⟨hlimit, children, inner, hchildren, rfl, hafter⟩
    refine ⟨hlimit, inner, ?_, hafter⟩
    apply runFrom_bind_eq_ok.mpr
    exact ⟨children, inner, hchildren, rfl⟩

omit [OfTreeError ε] in
theorem mirrors_showEntry {node : Node}
    (hself : scope.showEntries = true -> Mirrors strict (visit node) (transform node) node) :
    Mirrors strict (if scope.showEntries then visit node else pure .proceed)
      (if scope.showEntries then transform node else pure node) node := by
  split
  · rename_i hshow
    exact hself hshow
  · exact mirrors_pure node

theorem mirrors_entry {entry : RangeTblEntry}
    (hself : scope.showEntries = true ->
      Mirrors strict (visit (.rangeTblEntry entry)) (transform (.rangeTblEntry entry))
        (.rangeTblEntry entry))
    (hcontents : forall node : Node, node ∈ entry.contents scope ->
      Mirrors strict (visit node) (transform node) node) :
    Mirrors strict (walkEntry visit scope (.rangeTblEntry entry))
      (transformEntry transform scope (.rangeTblEntry entry)) (.rangeTblEntry entry) := by
  have hrebuilt := (Mirrors.mapM hcontents).map
    fun contents => Node.rangeTblEntry (entry.withContents scope contents)
  rw [RangeTblEntry.withContents_contents] at hrebuilt
  rw [walkEntry_rangeTblEntry, transformEntry_eq]
  apply Mirrors.guarded
  exact Mirrors.bind (mirrors_showEntry hself) hrebuilt

/-- Something else than an entry makes both fail, though not in the same way. -/
theorem mirrors_nonEntry (hstrict : ¬ strict) {node : Node}
    (hentry : forall entry : RangeTblEntry, node ≠ .rangeTblEntry entry)
    (hself : scope.showEntries = true -> Mirrors strict (visit node) (transform node) node) :
    Mirrors strict (walkEntry visit scope node) (transformEntry transform scope node) node := by
  have hexpect : forall operation : TreeError.Operation,
      (expectEntry operation node : Traversal σ ε RangeTblEntry) =
        raise (.unrecognizedNode node.tag operation) := by
    intro operation
    cases node with
    | rangeTblEntry entry => exact absurd rfl (hentry entry)
    | _ => rfl
  apply mirrors_of_fails hstrict
  · apply Fails.guarded
    intro nesting state
    rw [hexpect]
    exact ⟨_, _, rfl⟩
  · -- the transformation only looks after it has transformed the node, which may fail first
    rw [transformEntry_eq]
    apply Fails.guarded
    intro nesting state
    rw [runFrom_bind]
    rcases mirrors_showEntry hself nesting state with
      ⟨after, _, hrun⟩ | ⟨_, error, _, after, _, hrun, _⟩
    · rw [hrun]
      simp only [hexpect]
      exact ⟨_, _, rfl⟩
    · rw [hrun]
      exact ⟨_, _, rfl⟩

omit [OfTreeError ε] in
/-- What the plan of a node leads to is mirrored. -/
theorem mirrors_of_visit {node child : Node} {depth deeper : Nat}
    (htables : strict -> node.EntryTables scope)
    (hvisit : forall node : Node, (strict -> node.EntryTables scope) ->
      Mirrors strict (visit node) (transform node) node)
    (hstep : .visit child deeper ∈ node.plan scope depth) :
    Mirrors strict (visit child) (transform child) child := by
  apply hvisit
  intro hstrict
  exact (htables hstrict).of_visit hstep

theorem mirrors_rangeTable {q : Query} (htables : strict -> (Node.query q).EntryTables scope)
    (hvisit : forall node : Node, (strict -> node.EntryTables scope) ->
      Mirrors strict (visit node) (transform node) node)
    (hskip : scope.skipRangeTable = false) :
    Mirrors strict (walkRangeTable visit scope q.rtable)
      (transformRangeTable transform scope q.rtable) q.rtable := by
  apply Mirrors.mapM
  intro member hmember
  by_cases hentry : exists entry : RangeTblEntry, member = .rangeTblEntry entry
  · rcases hentry with ⟨entry, rfl⟩
    have hbelow : forall child : Node,
        .visit child 2 ∈ (Node.rangeTblEntry entry).entryPlan scope 1 ->
          Mirrors strict (visit child) (transform child) child := by
      intro child hstep
      have hplan : .visit child 2 ∈ (Node.query q).plan scope 0 :=
        Query.visit_mem_plan.mpr (Or.inr (Or.inl ⟨hskip, _, hmember, hstep⟩))
      exact mirrors_of_visit htables hvisit hplan
    apply mirrors_entry
    · intro hshow
      apply hbelow
      exact Node.visit_mem_entryPlan.mpr ⟨entry, rfl, rfl, Or.inl ⟨hshow, rfl⟩⟩
    · intro child hchild
      apply hbelow
      exact Node.visit_mem_entryPlan.mpr ⟨entry, rfl, rfl, Or.inr hchild⟩
  · have hstrict : ¬ strict := by
      intro hstrict
      exact hentry ((htables hstrict).rtable hskip hmember)
    apply mirrors_nonEntry hstrict
    · intro entry hmemberEq
      exact hentry ⟨entry, hmemberEq⟩
    · intro _hshow
      apply hvisit
      intro h
      exact absurd h hstrict

theorem mirrors_query {q : Query} (htables : strict -> (Node.query q).EntryTables scope)
    (hvisit : forall node : Node, (strict -> node.EntryTables scope) ->
      Mirrors strict (visit node) (transform node) node) :
    Mirrors strict (walkQuery visit scope q) (transformQuery transform scope q) q := by
  have hclauses : Mirrors strict (visitAll visit q.clauses) (q.clauses.mapM transform)
      q.clauses := by
    apply Mirrors.mapM
    intro clause hclause
    have hplan : .visit clause 1 ∈ (Node.query q).plan scope 0 :=
      Query.visit_mem_plan.mpr (Or.inl ⟨hclause, rfl⟩)
    exact mirrors_of_visit htables hvisit hplan
  have hrtable : Mirrors strict
      (if scope.skipRangeTable then pure .proceed else walkRangeTable visit scope q.rtable)
      (if scope.skipRangeTable then pure q.rtable
        else transformRangeTable transform scope q.rtable) q.rtable := by
    split
    · exact mirrors_pure q.rtable
    · rename_i hskip
      exact mirrors_rangeTable htables hvisit (by simpa using hskip)
  have hctes : Mirrors strict
      (if scope.skipCtes then pure .proceed else visitAll visit q.cteList)
      (if scope.skipCtes then pure q.cteList else q.cteList.mapM transform) q.cteList := by
    split
    · exact mirrors_pure q.cteList
    · rename_i hskip
      apply Mirrors.mapM
      intro cte hcte
      have hplan : .visit cte 1 ∈ (Node.query q).plan scope 0 :=
        Query.visit_mem_plan.mpr (Or.inr (Or.inr ⟨by simpa using hskip, hcte, rfl⟩))
      exact mirrors_of_visit htables hvisit hplan
  have hsame : { q.withClauses q.clauses with rtable := q.rtable, cteList := q.cteList } = q := by
    rw [Query.withClauses_clauses]
    cases q with
    | mk => rfl
  have hrebuilt := hctes.map
    fun cteList => { q.withClauses q.clauses with rtable := q.rtable, cteList }
  rw [hsame] at hrebuilt
  rw [transformQuery_eq]
  apply Mirrors.guarded
  apply Mirrors.bind hclauses
  apply Mirrors.bind hrtable
  exact hrebuilt

theorem mirrors_below {node : Node} (htables : strict -> node.EntryTables scope)
    (hvisit : forall node : Node, (strict -> node.EntryTables scope) ->
      Mirrors strict (visit node) (transform node) node) :
    Mirrors strict (walkBelow visit scope node) (transformBelow transform scope node) node := by
  induction node using Node.byParts with
  | query q =>
      have hquery := mirrors_query htables hvisit
      exact hquery.map Node.query
  | entry entry => exact mirrors_pure (Node.rangeTblEntry entry)
  | plain node hplain =>
      have hchildren : Mirrors strict (visitAll visit node.children)
          (node.children.mapM transform) node.children := by
        apply Mirrors.mapM
        intro child hchild
        have hplan : .visit child 1 ∈ node.plan scope 0 :=
          (Node.visit_mem_plan_of_plain hplain).mpr ⟨hchild, rfl⟩
        exact mirrors_of_visit htables hvisit hplan
      have hrebuilt := hchildren.map node.rebuild
      rw [Node.rebuild_children] at hrebuilt
      rw [walkBelow_of_plain hplain, transformBelow_of_plain hplain]
      exact Mirrors.guarded hrebuilt

/-!
# Observers
-/

omit [OfTreeError ε] in
/-- Walk on after every look at a node. -/
def watchWalk (observer : Node -> Traversal σ ε Unit) : Visitor σ ε := fun node => do
  observer node
  return .proceed

omit [OfTreeError ε] in
/-- Replace nothing after every look at a node. -/
def watchTransform (observer : Node -> Traversal σ ε Unit) (node : Node) :
    Traversal σ ε (Option Node) := do
  observer node
  return none

omit [OfTreeError ε] in
theorem mirrors_watch (observer : Node -> Traversal σ ε Unit) (node : Node) :
    Mirrors strict (watchWalk observer node) (observer node) () := by
  intro nesting state
  rw [watchWalk, runFrom_bind]
  rcases runFrom (observer node) nesting state with ⟨result, after⟩
  cases result with
  | ok value => exact Or.inl ⟨after, rfl, rfl⟩
  | error error => exact Or.inr ⟨error, error, after, after, rfl, rfl, fun _ => ⟨rfl, rfl⟩⟩

/-- The walk and the transformation of one observer mirror each other, strictly so over
range tables that hold entries only. -/
theorem mirrors_tree (observer : Node -> Traversal σ ε Unit) (node : Node)
    (htables : strict -> node.EntryTables scope) :
    Mirrors strict (walkTree (watchWalk observer) scope node)
      (transformTree (watchTransform observer) scope node) node := by
  rw [walkTree, transformTree]
  -- the tables below a node are those of a part of its plan, so the condition is handed down
  apply Mirrors.recurse (fun node => strict -> node.EntryTables scope) _ htables
  intro visit transform hvisit node htables
  simp only [watchTransform, bind_assoc, pure_bind]
  apply Mirrors.bind (mirrors_watch observer node)
  exact mirrors_below htables hvisit

/-- A transformation that replaces nothing gives back the tree it was given, and
succeeds where a walk that never stops does. -/
theorem transformTree_ok_iff_walkTree_ok (scope : Scope) (nesting : Nesting) (state : σ) :
    (forall node answer : Node,
      (runFrom (transformTree (fun _ => pure none : Node -> Traversal σ ε (Option Node)) scope
          node) nesting state).1 = .ok answer <->
        answer = node ∧ exists control : Control,
          (runFrom (walkTree (fun _ => pure .proceed : Visitor σ ε) scope node) nesting
            state).1 = .ok control) ∧
      forall q answer : Query,
        (runFrom (transformQueryTree (fun _ => pure none : Node -> Traversal σ ε (Option Node))
            scope q) nesting state).1 = .ok answer <->
          answer = q ∧ exists control : Control,
            (runFrom (walkQueryTree (fun _ => pure .proceed : Visitor σ ε) scope q) nesting
              state).1 = .ok control := by
  have htree : forall node : Node,
      Mirrors False (walkTree (fun _ => pure .proceed : Visitor σ ε) scope node)
        (transformTree (fun _ => pure none) scope node) node := by
    intro node
    exact mirrors_tree (fun _ => pure ()) node False.elim
  constructor
  · intro node answer
    exact (htree node).ok_iff nesting state answer
  · intro q answer
    have hquery : Mirrors False (walkQueryTree (fun _ => pure .proceed : Visitor σ ε) scope q)
        (transformQueryTree (fun _ => pure none) scope q) q :=
      mirrors_query False.elim fun node _ => htree node
    exact hquery.ok_iff nesting state answer

/-!
# Observers with a log
-/

/-- An observer looks at a node and at the nesting, which it cannot change.  It keeps a
state and may fail. -/
abbrev Observer (σ ε : Type) := Node -> Nesting -> σ -> Except ε Unit × σ

namespace Observer

omit [OfTreeError ε]

/-- The look of an observer at a node, as a step of a traversal. -/
def look (observer : Observer σ ε) (node : Node) : Traversal σ ε Unit :=
  ExceptT.mk fun (nesting, state) =>
    ((observer node nesting state).1, nesting, (observer node nesting state).2)

theorem runFrom_look (observer : Observer σ ε) (node : Node) (nesting : Nesting) (state : σ) :
    runFrom (observer.look node) nesting state =
      ((observer node nesting state).1, nesting, (observer node nesting state).2) :=
  rfl

/-- The observer that also writes down each node with its depth, just before it looks. -/
def logged (observer : Observer σ ε) : Observer (σ × List (Node × Nat)) ε :=
  fun node nesting (state, log) =>
    ((observer node nesting state).1, (observer node nesting state).2,
      log ++ [(node, nesting.depth)])

end Observer

omit [OfTreeError ε] in
theorem balanced_watchWalk (observer : Observer σ ε) (node : Node) :
    (watchWalk observer.look node).Balanced :=
  Balanced.bind (fun _ _ => rfl) fun _ _ _ => rfl

theorem replay_watchWalk_visit (observer : Observer σ ε) (limit : Nat) (node : Node)
    (depth : Nat) (rest : List (Step Node)) (state : σ) :
    replay (watchWalk observer.look) limit (.visit node depth :: rest) state =
      match observer node { depth, limit } state with
      | (.ok _, after) => replay (watchWalk observer.look) limit rest after
      | (.error error, after) => (.error error, after) := by
  rw [replay, watchWalk, runFrom_bind, Observer.runFrom_look]
  rcases observer node { depth, limit } state with ⟨result, after⟩
  cases result with
  | ok value => rfl
  | error error => rfl

/-- The error comes from the observer, at one of its calls, or from a level beyond the
limit. -/
def Observer.Fault (observer : Observer σ ε) (limit : Nat) (calls : List (Node × Nat))
    (error : ε) : Prop :=
  (exists (node : Node) (depth : Nat) (state : σ),
    (node, depth) ∈ calls ∧ (observer node { depth, limit } state).1 = .error error) ∨
  (exists depth : Nat, limit < depth ∧
    error = OfTreeError.ofTreeError (.stackDepthExceeded depth limit))

/-- Keeping a log changes nothing else, the log is a beginning of what the steps show,
and it accounts for the error. -/
theorem replay_logged (observer : Observer σ ε) {limit : Nat} {steps : List (Step Node)}
    (hrefuse : forall error : TreeError, .refuse error ∉ steps) (state : σ)
    (log : List (Node × Nat)) :
    exists calls : List (Node × Nat), calls <+: shown steps ∧
      replay (watchWalk observer.logged.look) limit steps (state, log) =
        ((replay (watchWalk observer.look) limit steps state).1,
          (replay (watchWalk observer.look) limit steps state).2, log ++ calls) ∧
      forall error : ε, (replay (watchWalk observer.look) limit steps state).1 = .error error ->
        observer.Fault limit calls error := by
  induction steps generalizing state log with
  | nil =>
      refine ⟨[], List.prefix_rfl, by rw [List.append_nil]; rfl, ?_⟩
      intro error herror
      cases herror
  | cons step rest ih =>
      have hrest : forall error : TreeError, .refuse error ∉ rest := by
        intro error hmem
        exact hrefuse error (List.mem_cons_of_mem step hmem)
      cases step with
      | enter depth =>
          by_cases hdepth : depth <= limit
          · simp only [replay, if_pos hdepth, shown_enter]
            exact ih hrest state log
          · simp only [replay, if_neg hdepth]
            refine ⟨[], List.nil_prefix, by rw [List.append_nil], ?_⟩
            intro error herror
            cases herror
            exact Or.inr ⟨depth, Nat.lt_of_not_le hdepth, rfl⟩
      | visit node depth =>
          rw [replay_watchWalk_visit, replay_watchWalk_visit, Observer.logged]
          rcases hlook : observer node { depth, limit } state with ⟨result, after⟩
          cases result with
          | error error =>
              refine ⟨[(node, depth)], List.prefix_append _ (shown rest), rfl, ?_⟩
              intro other hother
              cases hother
              exact Or.inl ⟨node, depth, state, List.mem_singleton_self _, by rw [hlook]⟩
          | ok value =>
              rcases ih hrest after (log ++ [(node, depth)]) with
                ⟨calls, hprefix, hreplay, hfault⟩
              refine ⟨(node, depth) :: calls, List.cons_prefix_cons.mpr ⟨rfl, hprefix⟩, ?_, ?_⟩
              · simp only [hreplay, List.append_assoc, List.singleton_append]
              · intro error herror
                rcases hfault error herror with
                  ⟨other, deeper, during, hcall, hother⟩ | hlimit
                · exact Or.inl
                    ⟨other, deeper, during, List.mem_cons_of_mem _ hcall, hother⟩
                · exact Or.inr hlimit
      | refuse error =>
          exfalso
          exact hrefuse error List.mem_cons_self

/-- Over range tables that hold entries only, the walk and the transformation of one
observer end alike, having called it on the same nodes at the same depths.  What ends
them early is an error of the observer, or the limit. -/
theorem walkTree_transformTree_lockstep (observer : Observer σ ε) (scope : Scope) (node : Node)
    (htables : node.EntryTables scope) (nesting : Nesting) (state : σ) :
    exists (outcome : Except ε Unit) (final : σ) (calls : List (Node × Nat)),
      runFrom (walkTree (watchWalk observer.look) scope node) nesting state =
        (outcome.map fun _ => .proceed, nesting, final) ∧
      runFrom (transformTree (watchTransform observer.look) scope node) nesting state =
        (outcome.map fun _ => node, nesting, final) ∧
      runFrom (walkTree (watchWalk observer.logged.look) scope node) nesting (state, []) =
        (outcome.map fun _ => .proceed, nesting, final, calls) ∧
      runFrom (transformTree (watchTransform observer.logged.look) scope node) nesting
          (state, []) =
        (outcome.map fun _ => node, nesting, final, calls) ∧
      calls <+: node.trace scope nesting.depth ∧
      forall error : ε, outcome = .error error -> observer.Fault nesting.limit calls error := by
  have hrefuse : forall error : TreeError,
      .refuse error ∉ node.itinerary scope nesting.depth := by
    intro error
    exact htables.refuse_notMem_itinerary error nesting.depth
  rcases replay_logged observer hrefuse state [] with ⟨calls, hprefix, hlog, hfault⟩
  have hwalk := performs_walkTree (balanced_watchWalk observer) scope node nesting state
  have hlogged :=
    performs_walkTree (balanced_watchWalk observer.logged) scope node nesting (state, [])
  have hmirrors : Mirrors True _ _ node := mirrors_tree observer.look node fun _ => htables
  have hmirrorsLogged : Mirrors True _ _ node :=
    mirrors_tree observer.logged.look node fun _ => htables
  rcases hmirrors.walk_outcome nesting state with ⟨outcome, houtcome⟩
  rw [hlog] at hlogged
  rcases hreplay : replay (watchWalk observer.look) nesting.limit
    (node.itinerary scope nesting.depth) state with ⟨result, final⟩
  rw [hreplay] at hwalk hlogged hfault
  have hresult : result = outcome.map fun _ => .proceed := by
    rw [hwalk] at houtcome
    exact houtcome
  rw [hresult] at hwalk hlogged hfault
  refine ⟨outcome, final, calls, hwalk, hmirrors.transform_run hwalk, hlogged,
    hmirrorsLogged.transform_run hlogged, hprefix, ?_⟩
  intro error herror
  apply hfault
  rw [herror]
  rfl

/-- Count the nodes shown. -/
def Observer.counter : Observer Nat TreeError := fun _ _ count => (.ok (), count + 1)

/-- Both show three nodes of `nestedSelect` and then need a third level, which two levels
leave no room for. -/
theorem walkTree_transformTree_lockstep_nestedSelect :
    runFrom (walkTree (watchWalk Observer.counter.look) { showEntries := true }
        Node.nestedSelect) (.start 2) 0 =
      (.error (.stackDepthExceeded 3 2), .start 2, 3) ∧
    runFrom (transformTree (watchTransform Observer.counter.look) { showEntries := true }
        Node.nestedSelect) (.start 2) 0 =
      (.error (.stackDepthExceeded 3 2), .start 2, 3) := by
  have hrun :
      runFrom (walkTree (watchWalk Observer.counter.look) { showEntries := true }
          Node.nestedSelect) (.start 2) 0 =
        (.error (.stackDepthExceeded 3 2), .start 2, 3) :=
    rfl
  rcases walkTree_transformTree_lockstep Observer.counter { showEntries := true }
    Node.nestedSelect (Node.entryTables_nestedSelect _) (.start 2) 0 with
    ⟨outcome, final, calls, hwalk, htransform, _⟩
  rw [hrun] at hwalk
  cases outcome with
  | ok value => cases hwalk
  | error error =>
      cases hwalk
      exact ⟨hrun, htransform⟩

end QueryTree
