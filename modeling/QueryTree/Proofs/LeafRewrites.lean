import QueryTree.Node.Build
import QueryTree.Proofs.Lockstep

/-!
# Leaf rewrites fuse

A callback that puts leaves in the place of leaves keeps the shape of the tree.  A
second one is therefore asked about every leaf where the first one has left it, and
about nothing else that it could replace.  One pass that asks both about each leaf does
what the two passes do.
-/

namespace QueryTree

open Traversal

/-!
# Leaves
-/

/-- Nothing is below the node.  Many kinds of nodes never have children; others are leaves
as long as they have none, like a function call without arguments.  Queries and range-table
entries are not leaves, even if they hold nothing. -/
def Node.Leaf (node : Node) : Prop :=
  node.Plain ∧ node.children = []

/-- The callback replaces leaves by leaves, and nothing else. -/
def RewritesLeaves (f : Node -> Option Node) : Prop :=
  forall node replacement : Node, f node = some replacement -> node.Leaf ∧ replacement.Leaf

/-- What two callbacks say, the second one of what the first one has left in the place of
the node. -/
def rewriteTwice (f g : Node -> Option Node) (node : Node) : Option Node :=
  match f node with
  | none => g node
  | some replacement => some ((g replacement).getD replacement)

theorem RewritesLeaves.entry {f : Node -> Option Node} (hleaves : RewritesLeaves f)
    (entry : RangeTblEntry) : f (.rangeTblEntry entry) = none := by
  cases hreplaced : f (.rangeTblEntry entry) with
  | none => rfl
  | some replacement =>
      have hplain := (hleaves _ _ hreplaced).left.left
      exact absurd rfl hplain.right

/-!
# Two runs in one
-/

variable {σ ε α : Type}

/-- Where the first computation answers, and the second one does so on that answer, wherever
it is run, the third one ends as the first does, but with the second answer. -/
def Fuses (first : Traversal σ ε α) (second : α -> Traversal σ ε α) (both : Traversal σ ε α) :
    Prop :=
  forall (nesting again : Nesting) (state during : σ) (between answer : α)
    (after rest : Nesting × σ),
    runFrom first nesting state = (.ok between, after) ->
      runFrom (second between) again during = (.ok answer, rest) ->
        runFrom both nesting state = (.ok answer, after)

theorem fuses_pure (x : α) : Fuses (pure x : Traversal σ ε α) pure (pure x) := by
  intro nesting again state during between answer after rest hfirst hsecond
  cases hfirst
  cases hsecond
  rfl

theorem Fuses.mapM {first both second : α -> Traversal σ ε α}
    (heach : forall x : α, Fuses (first x) second (both x)) (xs : List α) :
    Fuses (xs.mapM first) (fun ys => ys.mapM second) (xs.mapM both) := by
  induction xs with
  | nil =>
      intro nesting again state during between answer after rest hfirst hsecond
      cases hfirst
      cases hsecond
      rfl
  | cons x xs ih =>
      intro nesting again state during between answer after rest hfirst hsecond
      rw [List.mapM_cons] at hfirst
      rcases runFrom_bind_eq_ok.mp hfirst with ⟨y, middle, hy, hmore⟩
      rcases runFrom_bind_eq_ok.mp hmore with ⟨ys, _, hys, hanswer⟩
      cases hanswer
      change runFrom ((y :: ys).mapM second) again during = _ at hsecond
      rw [List.mapM_cons] at hsecond
      rcases runFrom_bind_eq_ok.mp hsecond with ⟨z, _, hz, hmore⟩
      rcases runFrom_bind_eq_ok.mp hmore with ⟨zs, _, hzs, hanswer⟩
      cases hanswer
      rw [List.mapM_cons]
      apply runFrom_bind_eq_ok.mpr
      refine ⟨z, middle, heach x _ _ _ _ _ _ _ _ hy hz, ?_⟩
      apply runFrom_bind_eq_ok.mpr
      exact ⟨zs, _, ih _ _ _ _ _ _ _ _ hys hzs, rfl⟩

/-!
# Range tables

In what follows `first`, `second` and `both` are the recursions of the three passes.  If
entries are shown, each of them keeps the entry that it is shown.
-/

variable [OfTreeError ε] {scope : Scope}

omit [OfTreeError ε] in
/-- An entry is only answered to itself. -/
def KeepsEntries (transform : Transformer σ ε) : Prop :=
  forall (node : Node) (entry : RangeTblEntry) (nesting : Nesting) (state : σ)
    (after : Nesting × σ),
    runFrom (transform node) nesting state = (.ok (.rangeTblEntry entry), after) ->
      node = .rangeTblEntry entry ∧ after = (nesting, state)

omit [OfTreeError ε] in
/-- Where the first transformer keeps an entry, so does the second one, at the same cost. -/
def KeepsTheSame (first both : Transformer σ ε) : Prop :=
  forall (entry : RangeTblEntry) (nesting : Nesting) (state : σ) (after : Nesting × σ),
    runFrom (first (.rangeTblEntry entry)) nesting state = (.ok (.rangeTblEntry entry), after) ->
      runFrom (both (.rangeTblEntry entry)) nesting state = (.ok (.rangeTblEntry entry), after)

theorem transformEntry_eq_ok {transform : Transformer σ ε} (hkeeps : KeepsEntries transform)
    {member answer : Node} {nesting : Nesting} {state : σ} {after : Nesting × σ}
    (hrun : runFrom (transformEntry transform scope member) nesting state = (.ok answer, after)) :
    nesting.depth + 1 <= nesting.limit ∧
      exists (entry : RangeTblEntry) (contents : List Node) (between : Nesting × σ),
        member = .rangeTblEntry entry ∧
        (scope.showEntries = true ->
          runFrom (transform member) { nesting with depth := nesting.depth + 1 } state =
            (.ok member, { nesting with depth := nesting.depth + 1 }, state)) ∧
        runFrom ((entry.contents scope).mapM transform)
            { nesting with depth := nesting.depth + 1 } state = (.ok contents, between) ∧
        answer = .rangeTblEntry (entry.withContents scope contents) ∧
        after = (between.1.leave, between.2) := by
  rw [transformEntry_eq] at hrun
  rcases runFrom_guarded_eq_ok.mp hrun with ⟨hlimit, inner, hinner, hafter⟩
  rcases runFrom_bind_eq_ok.mp hinner with ⟨shown, middle, hshown, hentry⟩
  rcases runFrom_bind_eq_ok.mp hentry with ⟨entry, later, hexpect, hcontents⟩
  have hshownEntry : shown = .rangeTblEntry entry ∧ later = middle := by
    cases shown with
    | rangeTblEntry other =>
        cases hexpect
        exact ⟨rfl, rfl⟩
    | _ => cases hexpect
  rcases hshownEntry with ⟨rfl, rfl⟩
  rcases runFrom_bind_eq_ok.mp hcontents with ⟨contents, between, hrun, hanswer⟩
  cases hanswer
  cases hshow : scope.showEntries with
  | false =>
      rw [hshow] at hshown
      cases hshown
      exact ⟨hlimit, entry, contents, _, rfl, nofun, hrun, rfl, hafter⟩
  | true =>
      rw [hshow] at hshown
      rcases hkeeps member entry _ _ _ hshown with ⟨rfl, rfl⟩
      exact ⟨hlimit, entry, contents, _, rfl, fun _ => hshown, hrun, rfl, hafter⟩

section

variable {first second both : Transformer σ ε}
  (heach : forall node : Node, Fuses (first node) second (both node))
  (hfirst : KeepsEntries first) (hsecond : KeepsEntries second)
  (hboth : KeepsTheSame first both)

include heach hfirst hsecond hboth

theorem fuses_transformEntry (member : Node) :
    Fuses (transformEntry first scope member) (transformEntry second scope)
      (transformEntry both scope member) := by
  intro nesting again state during between answer after rest hrun hagain
  rcases transformEntry_eq_ok hfirst hrun with
    ⟨hlimit, entry, contents, inner, rfl, hshown, hcontents, rfl, hafter⟩
  rcases transformEntry_eq_ok hsecond hagain with
    ⟨_, other, newContents, _, hother, _, hnewContents, rfl, _⟩
  cases hother
  have hlength := length_of_mapM_eq_ok hcontents
  have hnewLength := length_of_mapM_eq_ok hnewContents
  rw [RangeTblEntry.contents_withContents hlength] at hnewContents hnewLength
  rw [RangeTblEntry.withContents_withContents hlength (hnewLength.trans hlength)]
  rw [transformEntry_eq]
  refine runFrom_guarded_eq_ok.mpr ⟨hlimit, inner, ?_, hafter⟩
  apply runFrom_bind_eq_ok.mpr
  refine ⟨.rangeTblEntry entry, ({ nesting with depth := nesting.depth + 1 }, state), ?_, ?_⟩
  · split
    · rename_i hshow
      exact hboth entry _ _ _ (hshown hshow)
    · rfl
  · apply runFrom_bind_eq_ok.mpr
    refine ⟨entry, _, rfl, ?_⟩
    apply runFrom_bind_eq_ok.mpr
    exact ⟨newContents, inner, Fuses.mapM heach _ _ _ _ _ _ _ _ _ hcontents hnewContents, rfl⟩

theorem fuses_transformQuery (q : Query) :
    Fuses (transformQuery first scope q) (transformQuery second scope)
      (transformQuery both scope q) := by
  have htable : Fuses
      (if scope.skipRangeTable then pure q.rtable else transformRangeTable first scope q.rtable)
      (fun rtable =>
        if scope.skipRangeTable then pure rtable else transformRangeTable second scope rtable)
      (if scope.skipRangeTable then pure q.rtable
        else transformRangeTable both scope q.rtable) := by
    split
    · exact fuses_pure q.rtable
    · exact Fuses.mapM (fuses_transformEntry heach hfirst hsecond hboth) q.rtable
  have hctes : Fuses (if scope.skipCtes then pure q.cteList else q.cteList.mapM first)
      (fun cteList => if scope.skipCtes then pure cteList else cteList.mapM second)
      (if scope.skipCtes then pure q.cteList else q.cteList.mapM both) := by
    split
    · exact fuses_pure q.cteList
    · exact Fuses.mapM heach q.cteList
  intro nesting again state during between answer after rest hrun hagain
  rcases transformQuery_eq_ok.mp hrun with
    ⟨hlimit, clauses, rtable, cteList, afterClauses, afterTable, inner, hclauses, htableRun,
      hctesRun, rfl, hafter⟩
  have hlength := length_of_mapM_eq_ok hclauses
  rcases transformQuery_eq_ok.mp hagain with
    ⟨_, newClauses, newRtable, newCteList, _, _, _, hnewClauses, hnewTable, hnewCtes, rfl, _⟩
  rw [Query.clauses_replaced hlength] at hnewClauses
  have hnewLength := (length_of_mapM_eq_ok hnewClauses).trans hlength
  rw [Query.withClauses_replaced hlength hnewLength]
  apply transformQuery_eq_ok.mpr
  refine ⟨hlimit, newClauses, newRtable, newCteList, afterClauses, afterTable, inner, ?_, ?_, ?_,
    rfl, hafter⟩
  · exact Fuses.mapM heach _ _ _ _ _ _ _ _ _ hclauses hnewClauses
  · exact htable _ _ _ _ _ _ _ _ htableRun hnewTable
  · exact hctes _ _ _ _ _ _ _ _ hctesRun hnewCtes

theorem fuses_transformBelow (node : Node) :
    Fuses (transformBelow first scope node) (transformBelow second scope)
      (transformBelow both scope node) := by
  intro nesting again state during between answer after rest hrun hagain
  induction node using Node.byParts with
  | query q =>
      rcases runFrom_bind_eq_ok.mp hrun with ⟨newQuery, middle, hquery, hbetween⟩
      cases hbetween
      rcases runFrom_bind_eq_ok.mp hagain with ⟨final, _, hfinal, hanswer⟩
      cases hanswer
      apply runFrom_bind_eq_ok.mpr
      refine ⟨final, _, ?_, rfl⟩
      exact fuses_transformQuery heach hfirst hsecond hboth q _ _ _ _ _ _ _ _ hquery hfinal
  | entry entry =>
      cases hrun
      cases hagain
      rfl
  | plain node hplain =>
      rcases (transformBelow_eq_ok hplain).mp hrun with
        ⟨hlimit, children, inner, hchildren, rfl, hafter⟩
      have hlength := length_of_mapM_eq_ok hchildren
      have hrebuilt : (node.rebuild children).Plain := by
        rw [Node.Plain, Node.tag_rebuild]
        exact hplain
      rcases (transformBelow_eq_ok hrebuilt).mp hagain with
        ⟨_, newChildren, _, hnewChildren, rfl, _⟩
      rw [Node.children_rebuild hlength] at hnewChildren
      have hnewLength := (length_of_mapM_eq_ok hnewChildren).trans hlength
      rw [Node.rebuild_rebuild hlength hnewLength]
      apply (transformBelow_eq_ok hplain).mpr
      refine ⟨hlimit, newChildren, inner, ?_, rfl, hafter⟩
      exact Fuses.mapM heach _ _ _ _ _ _ _ _ _ hchildren hnewChildren

end

/-!
# Trees
-/

/-- A node that is not replaced becomes a leaf only if it is the same leaf. -/
theorem eq_of_leaf_below {transform : Transformer σ ε} {node answer : Node} {nesting : Nesting}
    {state : σ} {after : Nesting × σ}
    (hrun : runFrom (transformBelow transform scope node) nesting state = (.ok answer, after))
    (hleaf : node.Leaf ∨ answer.Leaf) : answer = node ∧ after = (nesting, state) := by
  induction node using Node.byParts with
  | query q =>
      rcases runFrom_bind_eq_ok.mp hrun with ⟨newQuery, _, _, hanswer⟩
      cases hanswer
      rcases hleaf with hleaf | hleaf
      · exact absurd rfl hleaf.left.left
      · exact absurd rfl hleaf.left.left
  | entry entry =>
      cases hrun
      exact ⟨rfl, rfl⟩
  | plain node hplain =>
      rcases (transformBelow_eq_ok hplain).mp hrun with
        ⟨_, children, inner, hchildren, rfl, hafter⟩
      have hlength := length_of_mapM_eq_ok hchildren
      have hnone : node.children = [] := by
        rcases hleaf with hleaf | hleaf
        · exact hleaf.right
        · have hanswer := hleaf.right
          rw [Node.children_rebuild hlength] at hanswer
          rw [hanswer] at hlength
          exact List.eq_nil_of_length_eq_zero hlength.symm
      have hrebuilt := node.rebuild_children
      rw [hnone] at hchildren hrebuilt
      cases hchildren
      exact ⟨hrebuilt, hafter⟩

/-- One step of the transformation of a plain function. -/
def rewriteStep (f : Node -> Option Node) (scope : Scope) (transform : Transformer σ ε)
    (node : Node) : Traversal σ ε Node :=
  match f node with
  | some replacement => pure replacement
  | none => transformBelow transform scope node

theorem transformTree_eq_rewrite (f : Node -> Option Node) (node : Node) :
    transformTree (fun node => pure (f node) : Node -> Traversal σ ε _) scope node =
      recurse (rewriteStep f scope) node :=
  rfl

theorem keepsEntries_bounded {f : Node -> Option Node} (hleaves : RewritesLeaves f)
    (levels : Nat) :
    KeepsEntries (recurse.bounded (rewriteStep f scope) levels : Transformer σ ε) := by
  intro node entry nesting state after hrun
  cases levels with
  | zero => cases hrun
  | succ levels =>
      rw [recurse.bounded, rewriteStep] at hrun
      cases hreplaced : f node with
      | some replacement =>
          rw [hreplaced] at hrun
          cases hrun
          exact absurd rfl (hleaves _ _ hreplaced).right.left.right
      | none =>
          rw [hreplaced] at hrun
          induction node using Node.byParts with
          | query q =>
              rcases runFrom_bind_eq_ok.mp hrun with ⟨newQuery, _, _, hanswer⟩
              cases hanswer
          | entry other =>
              cases hrun
              exact ⟨rfl, rfl⟩
          | plain node hplain =>
              rcases (transformBelow_eq_ok hplain).mp hrun with
                ⟨_, children, _, _, hrebuilt, _⟩
              have htag := node.tag_rebuild children
              rw [← hrebuilt] at htag
              exact absurd htag.symm hplain.right

section

variable {f g : Node -> Option Node} {first second both : Transformer σ ε}
  (hf : RewritesLeaves f) (hg : RewritesLeaves g)
  (heach : forall node : Node, Fuses (first node) second (both node))
  (hfirst : KeepsEntries first) (hsecond : KeepsEntries second)
  (hboth : KeepsTheSame first both)

include hf hg heach hfirst hsecond hboth

theorem fuses_rewriteStep (node : Node) :
    Fuses (rewriteStep f scope first node) (rewriteStep g scope second)
      (rewriteStep (rewriteTwice f g) scope both node) := by
  intro nesting again state during between answer after rest hrun hagain
  rw [rewriteStep] at hrun hagain
  rw [rewriteStep, rewriteTwice]
  cases hreplaced : f node with
  | some replacement =>
      rw [hreplaced] at hrun
      cases hrun
      cases hsecondReplaced : g between with
      | some final =>
          rw [hsecondReplaced] at hagain
          cases hagain
          simp only [hsecondReplaced]
          rfl
      | none =>
          rw [hsecondReplaced] at hagain
          have hleaf := (hf _ _ hreplaced).right
          rcases eq_of_leaf_below hagain (Or.inl hleaf) with ⟨rfl, _⟩
          simp only [hsecondReplaced]
          rfl
  | none =>
      rw [hreplaced] at hrun
      cases hsecondReplaced : g between with
      | some final =>
          rw [hsecondReplaced] at hagain
          cases hagain
          -- a leaf that the first pass did not put there was there before
          have hleaf := (hg _ _ hsecondReplaced).left
          rcases eq_of_leaf_below hrun (Or.inr hleaf) with ⟨rfl, rfl⟩
          simp only [hsecondReplaced]
          rfl
      | none =>
          rw [hsecondReplaced] at hagain
          have hkept : g node = none := by
            cases hnode : g node with
            | none => rfl
            | some final =>
                have hleaf := (hg _ _ hnode).left
                rcases eq_of_leaf_below hrun (Or.inl hleaf) with ⟨rfl, _⟩
                rw [hnode] at hsecondReplaced
                cases hsecondReplaced
          simp only [hkept]
          exact fuses_transformBelow heach hfirst hsecond hboth node _ _ _ _ _ _ _ _ hrun hagain

end

theorem fuses_bounded {f g : Node -> Option Node} (hf : RewritesLeaves f)
    (hg : RewritesLeaves g) (levels againLevels : Nat) (node : Node) :
    Fuses (recurse.bounded (rewriteStep f scope) levels node : Traversal σ ε Node)
      (recurse.bounded (rewriteStep g scope) againLevels)
      (recurse.bounded (rewriteStep (rewriteTwice f g) scope) levels node) := by
  -- the second pass may have other levels left, since it starts anew
  induction levels generalizing againLevels node with
  | zero =>
      intro nesting again state during between answer after rest hrun
      cases hrun
  | succ levels ih =>
      cases againLevels with
      | zero =>
          intro nesting again state during between answer after rest _hrun hagain
          cases hagain
      | succ againLevels =>
          apply fuses_rewriteStep hf hg (ih againLevels) (keepsEntries_bounded hf levels)
            (keepsEntries_bounded hg againLevels)
          intro entry nesting state after hrun
          cases levels with
          | zero => cases hrun
          | succ levels =>
              rw [recurse.bounded, rewriteStep, hf.entry] at hrun
              rw [recurse.bounded, rewriteStep, rewriteTwice, hf.entry]
              simp only [hg.entry]
              exact hrun

/-- Two leaf rewrites one after the other, the second one within any limit, are one leaf
rewrite.  It succeeds where the first of them did. -/
theorem transformTree_rewriteTwice (f g : Node -> Option Node) (hf : RewritesLeaves f)
    (hg : RewritesLeaves g) (scope : Scope) {tree between result : Node}
    {nesting again : Nesting} {state during : σ} {after rest : Nesting × σ}
    (hfirst : runFrom (transformTree (fun node => pure (f node) : Node -> Traversal σ ε _) scope
      tree) nesting state = (.ok between, after))
    (hsecond : runFrom (transformTree (fun node => pure (g node) : Node -> Traversal σ ε _) scope
      between) again during = (.ok result, rest)) :
    runFrom (transformTree (fun node => pure (rewriteTwice f g node) : Node -> Traversal σ ε _)
      scope tree) nesting state = (.ok result, after) := by
  rw [transformTree_eq_rewrite, runFrom_recurse] at hfirst hsecond
  rw [transformTree_eq_rewrite, runFrom_recurse]
  exact fuses_bounded hf hg _ _ tree _ _ _ _ _ _ _ _ hfirst hsecond

/-- Count range-table entries from further on. -/
def shiftRtindex (offset : UInt32) : Node -> Option Node
  | .var data => some (.var { data with rtindex := data.rtindex + offset })
  | .rangeTblRef rtindex => some (.rangeTblRef (rtindex + offset))
  | _ => none

theorem rewritesLeaves_shiftRtindex (offset : UInt32) : RewritesLeaves (shiftRtindex offset) := by
  intro node replacement hreplaced
  cases node with
  | var data =>
      cases hreplaced
      exact ⟨⟨⟨nofun, nofun⟩, rfl⟩, ⟨nofun, nofun⟩, rfl⟩
  | rangeTblRef rtindex =>
      cases hreplaced
      exact ⟨⟨⟨nofun, nofun⟩, rfl⟩, ⟨nofun, nofun⟩, rfl⟩
  | _ => cases hreplaced

/-- A query over a subquery, both of which go by a column of one entry. -/
def selectFrom (rtindex : UInt32) : Node :=
  .query (select [.rangeTblEntry {
    kind := .subquery (.query (select [])) false
    header := {
      correlation := none, eref := { name := "inner", colnames := [] }, lateral := false,
      inh := false, inFromClause := true }
    securityQuals := [] }])
where
  select (rtable : List Node) : Query :=
    { Query.bare with
      rtable
      jointree :=
        some (.fromExpr [.rangeTblRef rtindex]
          (some (.ofVar rtindex 1 BuiltinType.bool.toOid (-1) Oid.invalid 0))) }

/-- Two shifts add up, in the subquery as well as around it. -/
theorem transformTree_rewriteTwice_selectFrom :
    runFrom (transformTree (fun node => pure (shiftRtindex 2 node) : Node -> Lookup _)
        { showEntries := true } (selectFrom 1)) (.start 5) () =
      (.ok (selectFrom 3), .start 5, ()) ∧
    runFrom (transformTree (fun node => pure (shiftRtindex 3 node) : Node -> Lookup _)
        { showEntries := true } (selectFrom 3)) (.start 7) () =
      (.ok (selectFrom 6), .start 7, ()) ∧
    runFrom (transformTree
        (fun node => pure (rewriteTwice (shiftRtindex 2) (shiftRtindex 3) node) :
          Node -> Lookup _) { showEntries := true } (selectFrom 1)) (.start 5) () =
      (.ok (selectFrom 6), .start 5, ()) := by
  have hfirst : runFrom (transformTree
      (fun node => pure (shiftRtindex 2 node) : Node -> Lookup _)
      { showEntries := true } (selectFrom 1)) (.start 5) () =
      (.ok (selectFrom 3), .start 5, ()) :=
    rfl
  have hsecond : runFrom (transformTree
      (fun node => pure (shiftRtindex 3 node) : Node -> Lookup _)
      { showEntries := true } (selectFrom 3)) (.start 7) () =
      (.ok (selectFrom 6), .start 7, ()) :=
    rfl
  refine ⟨hfirst, hsecond, ?_⟩
  exact transformTree_rewriteTwice (shiftRtindex 2) (shiftRtindex 3)
    (rewritesLeaves_shiftRtindex 2) (rewritesLeaves_shiftRtindex 3) _ hfirst hsecond

end QueryTree
