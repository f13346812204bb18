import QueryTree.Node.Build
import QueryTree.Node.Rebuild
import QueryTree.Proofs.Transcripts
import QueryTree.Traversal.Transform

/-!
# Children are traversed lawfully

The walk over the children of a node and the transformation of its children meet the same
nodes in the same order, kind by kind.  What the transformation puts in their places is
what the walk then shows, and it can be taken back: nothing else of the node has changed.
-/

namespace QueryTree

open Traversal

variable {σ ε : Type} [OfTreeError ε]

/-!
# Both are in turn
-/

theorem walkChildren_of_tag_ne {node : Node} (hentry : node.tag ≠ .rangeTblEntry)
    (visit : Visitor σ ε) : walkChildren visit node = guarded (visitAll visit node.children) := by
  cases node with
  | rangeTblEntry entry => exact absurd rfl hentry
  | _ => rfl

theorem transformChildren_of_tag_ne {node : Node} (hentry : node.tag ≠ .rangeTblEntry)
    (transform : Transformer σ ε) :
    transformChildren transform node =
      guarded (node.children.mapM transform >>= fun children => pure (node.rebuild children)) := by
  cases node with
  | rangeTblEntry entry => exact absurd rfl hentry
  | _ => rfl

theorem shows_walkChildren {node : Node} (hentry : node.tag ≠ .rangeTblEntry) {nesting : Nesting}
    (hroom : nesting.depth < nesting.limit) :
    Shows (fun visit : Visitor _ ε => walkChildren visit node) nesting node.children := by
  have hwalk : Performs (Reply.chart : Reply _ _ ε _).run
      (.enter (nesting.depth + 1) :: Step.toEach node.children (nesting.depth + 1)) nesting
      (walkChildren Reply.chart.run node) := by
    rw [walkChildren_of_tag_ne hentry]
    apply Performs.guarded
    intro _hroom
    exact Performs.callbacks (Reply.balanced_run _) node.children _
  have hpasses : forall step : Step Node,
      step ∈ .enter (nesting.depth + 1) :: Step.toEach node.children (nesting.depth + 1) ->
        step.Passes nesting.limit := by
    rw [List.forall_mem_cons]
    exact ⟨hroom, fun step => Step.passes_toEach⟩
  have hshows : Shows (fun visit : Visitor _ ε => walkChildren visit node) nesting _ :=
    shows_of_performs hwalk hpasses
  rw [Step.shown_enter, Step.map_fst_shown_toEach] at hshows
  exact hshows

/-- The calls of a transformation of the children, and how it ends. -/
def Node.childCalls (node : Node) : Protocol (Node × Except ε Node) ε Node :=
  .andThen (.each .asks node.children) fun children => .ends (.ok (node.rebuild children))

theorem transcribes_transformChildren {node : Node} (hentry : node.tag ≠ .rangeTblEntry)
    {nesting : Nesting} (hroom : nesting.depth < nesting.limit) (transform : Transformer σ ε)
    (state : σ) :
    exists calls : List (Node × Except ε Node),
      node.childCalls (runFrom (transformChildren transform node) nesting state).1 calls ∧
        runFrom (transformChildren (noting transform) node) nesting (state, []) =
          beside (runFrom (transformChildren transform node) nesting state) calls := by
  have hchildren : Transcribes
      (node.children.mapM transform >>= fun children => pure (node.rebuild children))
      (node.children.mapM (noting transform) >>= fun children => pure (node.rebuild children))
      node.childCalls := by
    apply Transcribes.bind (Transcribes.mapM (transcribes_noting transform) node.children)
    intro children
    exact transcribes_pure (node.rebuild children)
  rcases hchildren.runFrom_guarded hroom state with ⟨calls, hcalls, hnoted⟩
  rw [transformChildren_of_tag_ne hentry, transformChildren_of_tag_ne hentry]
  exact ⟨calls, hcalls, hnoted []⟩

/-!
# The laws
-/

/-- The children that were replaced can be put back. -/
theorem transformChildren_restores {node : Node} (hentry : node.tag ≠ .rangeTblEntry)
    {replies : List Node} (hlength : replies.length = node.children.length)
    (back : Transformer σ ε) {again : Nesting} (hroom : again.depth < again.limit) (state : σ)
    (hback : (runFrom (transformChildren (noting back) (node.rebuild replies)) again
      (state, [])).2.2.2 = replies.zip (node.children.map .ok)) :
    (runFrom (transformChildren back (node.rebuild replies)) again state).1 = .ok node := by
  have htag : (node.rebuild replies).tag ≠ .rangeTblEntry := by
    rw [Node.tag_rebuild]
    exact hentry
  rcases transcribes_transformChildren htag hroom back state with ⟨calls, hcalls, hnoted⟩
  rw [hnoted] at hback
  have hpins : Protocol.Pins (node.rebuild replies).childCalls
      (replies.zip (node.children.map (Except.ok : Node -> Except ε Node)))
      (.ok ((node.rebuild replies).rebuild node.children)) := by
    rw [Node.childCalls, Node.children_rebuild hlength]
    exact (Protocol.pins_each_asks hlength.symm).map (node.rebuild replies).rebuild
  rw [Node.rebuild_rebuild hlength rfl, Node.rebuild_children] at hpins
  exact (hpins.outcome hcalls (hback.trans (List.append_nil _).symm)).left

/-- For every kind of node but range-table entries, the children are transformed in the order
in which a walk shows them.  If all of them are answered, the node that is made of the
answers is of the same kind, a walk shows just the answers, and putting the children back
gives the node that it was.  Otherwise the first failure ends it, and is passed on. -/
theorem transformChildren_lawful (transform : Transformer σ ε) {node : Node}
    (hentry : node.tag ≠ .rangeTblEntry) {nesting : Nesting}
    (hroom : nesting.depth < nesting.limit) (state : σ) :
    exists (children : List Node) (calls : List (Node × Except ε Node)),
      Shows (fun visit : Visitor _ ε => walkChildren visit node) nesting children ∧
      runFrom (transformChildren (noting transform) node) nesting (state, []) =
        beside (runFrom (transformChildren transform node) nesting state) calls ∧
      ((exists (replies : List Node) (result : Node),
          replies.length = children.length ∧
          calls = children.zip (replies.map .ok) ∧
          (runFrom (transformChildren transform node) nesting state).1 = .ok result ∧
          result.tag = node.tag ∧
          Shows (fun visit : Visitor _ ε => walkChildren visit result) nesting replies ∧
          (replies = children -> result = node) ∧
          forall (τ : Type) (back : Transformer τ ε) (again : Nesting) (during : τ),
            again.depth < again.limit ->
            (runFrom (transformChildren (noting back) result) again (during, [])).2.2.2 =
              replies.zip (children.map .ok) ->
            (runFrom (transformChildren back result) again during).1 = .ok node) ∨
        exists (before : List Node) (child : Node) (rest replies : List Node) (error : ε),
          children = before ++ child :: rest ∧
          replies.length = before.length ∧
          calls = before.zip (replies.map .ok) ++ [(child, .error error)] ∧
          (runFrom (transformChildren transform node) nesting state).1 = .error error) := by
  rcases transcribes_transformChildren hentry hroom transform state with ⟨calls, hcalls, hnoted⟩
  refine ⟨node.children, calls, shows_walkChildren hentry hroom, hnoted, ?_⟩
  generalize (runFrom (transformChildren transform node) nesting state).1 = outcome at hcalls ⊢
  cases hcalls with
  | failed hfailed =>
      right
      rcases Protocol.each_asks_error hfailed with
        ⟨before, child, rest, replies, hchildren, hlength, rfl⟩
      exact ⟨before, child, rest, replies, _, hchildren, hlength, rfl, rfl⟩
  | goesOn hanswered hend =>
      left
      rename_i replies _ _
      rcases Protocol.each_asks_ok hanswered with ⟨hlength, rfl⟩
      rcases hend with ⟨rfl, rfl⟩
      have htag := node.tag_rebuild replies
      refine ⟨replies, node.rebuild replies, hlength, List.append_nil _, rfl, htag, ?_, ?_, ?_⟩
      · have hshows : Shows (fun visit : Visitor _ ε => walkChildren visit (node.rebuild replies))
            nesting _ :=
          shows_walkChildren (fun hsame => hentry (htag.symm.trans hsame)) hroom
        rw [Node.children_rebuild hlength] at hshows
        exact hshows
      · rintro rfl
        exact node.rebuild_children
      · intro τ back again during hagain hback
        exact transformChildren_restores hentry hlength back hagain during hback

/-- Number the nodes that are shown. -/
def number (_shown : Node) : Traversal Nat TreeError Node := do
  let count ← state
  modifyState (· + 1)
  return .ofInt4 (Int32.ofNat count)

/-- A choice between two values, with a value to choose by. -/
def Node.choice (arg cond result otherwise : Node) : Node :=
  .caseExpr { caseType := BuiltinType.int4.toOid, collation := Oid.invalid, location := some 7 }
    (some arg) [{ expr := cond, result, location := some 12 }] (some otherwise)

theorem transformChildren_lawful_choice :
    exists (children : List Node) (calls : List (Node × Except TreeError Node))
      (replies : List Node),
      Shows (fun visit : Visitor _ TreeError =>
        walkChildren visit (.choice (.ofBool true) (.ofBool false) (.ofInt4 8) (.ofInt4 9)))
        (.start 1) children ∧
      calls = children.zip (replies.map .ok) ∧
      runFrom (transformChildren (noting number)
          (.choice (.ofBool true) (.ofBool false) (.ofInt4 8) (.ofInt4 9))) (.start 1) (0, []) =
        (.ok (.choice (.ofInt4 0) (.ofInt4 1) (.ofInt4 2) (.ofInt4 3)), .start 1, 4, calls) := by
  have hrun : runFrom (transformChildren number
      (.choice (.ofBool true) (.ofBool false) (.ofInt4 8) (.ofInt4 9))) (.start 1) 0 =
      (.ok (.choice (.ofInt4 0) (.ofInt4 1) (.ofInt4 2) (.ofInt4 3)), .start 1, 4) :=
    rfl
  have htag : (Node.choice (.ofBool true) (.ofBool false) (.ofInt4 8) (.ofInt4 9)).tag ≠
      .rangeTblEntry :=
    nofun
  have hroom : (Nesting.start 1).depth < (Nesting.start 1).limit := Nat.one_pos
  rcases transformChildren_lawful number htag hroom 0 with
    ⟨children, calls, hshows, hnoted, ⟨replies, _, _, hcalls, _⟩ |
      ⟨_, _, _, _, _, _, _, _, herror⟩⟩
  · rw [hrun] at hnoted
    exact ⟨children, calls, replies, hshows, hcalls, hnoted⟩
  · rw [hrun] at herror
    cases herror

end QueryTree
