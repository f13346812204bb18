import Mathlib.Data.List.Perm.Basic
import QueryTree.Proofs.WalkOrder
import QueryTree.Traversal.Raw

/-!
# Walks over raw trees

What a walk over a raw tree shows is compared with what the fields of the tree
hold.  The trace of a raw tree is its preorder, written down without any callback;
it has everything that is stored in the tree, except what stands in the fields of
column references.  A walk follows an itinerary like any other, and is the fold of its
callback over the trace as long as it stays within the limit.
-/

namespace QueryTree

open Traversal

namespace RawNode

/-!
# What the fields hold
-/

/-- The nodes that the fields of a raw node hold, in declaration order, whether a walk
shows them or not. -/
def slots : RawNode -> List RawNode
  | .value _ => []
  | .paramRef _ => []
  | .aConst _ => []
  | .aStar => []
  | .rangeAlias _ => []
  | .rangeVar _ correlation => correlation.toList
  | .groupingFunc _ args => args
  | .subLink _ testExpr subselect => testExpr.toList ++ [subselect]
  | .caseExpr _ arg whens otherwise =>
      arg.toList ++ whens.flatMap CaseWhen.nodes ++ otherwise.toList
  | .rowExpr _ args => args
  | .coalesceExpr _ args => args
  | .minMaxExpr _ args => args
  | .xmlExpr _ namedArgs args => namedArgs ++ args
  | .nullTest _ arg => [arg]
  | .booleanTest _ arg => [arg]
  | .joinExpr _ larg rarg quals correlation =>
      [larg, rarg] ++ quals.toList ++ correlation.toList
  | .intoClause _ rel viewQuery => [rel] ++ viewQuery.toList
  | .insertStmt relation cols select onConflict returningList withList =>
      [relation] ++ cols ++ select.toList ++ onConflict.toList ++ returningList ++
        withList.toList
  | .deleteStmt relation usingClause whereClause returningList withList =>
      [relation] ++ usingClause ++ whereClause.toList ++ returningList ++ withList.toList
  | .updateStmt relation targetList whereClause fromClause returningList withList =>
      [relation] ++ targetList ++ whereClause.toList ++ fromClause ++ returningList ++
        withList.toList
  | .selectStmt _ distinctClause into targetList fromClause whereClause groupClause
        havingClause windowClause valuesLists sortClause limitOffset limitCount
        locking withList larg rarg =>
      distinctClause ++ into.toList ++ targetList ++ fromClause ++ whereClause.toList ++
        groupClause ++ havingClause.toList ++ windowClause ++ valuesLists ++ sortClause ++
        limitOffset.toList ++ limitCount.toList ++ locking ++ withList.toList ++
        larg.toList ++ rarg.toList
  | .aExpr _ lexpr rexpr => lexpr.toList ++ rexpr.toList
  | .columnRef _ fields => fields
  | .funcCall _ args aggOrder aggFilter window =>
      args ++ aggOrder ++ aggFilter.toList ++ window.toList
  | .namedArgExpr _ arg => [arg]
  | .aIndices lidx uidx => lidx.toList ++ uidx.toList
  | .aIndirection arg indirection => [arg] ++ indirection
  | .aArrayExpr _ elements => elements
  | .resTarget _ indirection val => indirection ++ val.toList
  | .multiAssignRef _ source => [source]
  | .typeCast _ arg type => [arg, type]
  | .collateClause _ arg => arg.toList
  | .sortBy _ node => [node]
  | .windowDef _ partitionClause orderClause startOffset endOffset =>
      partitionClause ++ orderClause ++ startOffset.toList ++ endOffset.toList
  | .rangeSubselect _ subquery correlation => [subquery] ++ correlation.toList
  | .rangeFunction _ functions correlation coldeflist =>
      functions ++ correlation.toList ++ coldeflist
  | .rangeTableSample _ relation args repeatable =>
      [relation] ++ args ++ repeatable.toList
  | .typeName _ typmods arrayBounds => typmods ++ arrayBounds
  | .columnDef _ type rawDefault collClause =>
      type.toList ++ rawDefault.toList ++ collClause.toList
  | .indexElem _ expr => expr.toList
  | .groupingSet _ content => content
  | .lockingClause _ lockedRels => lockedRels
  | .xmlSerialize _ expr type => [expr, type]
  | .withClause _ ctes => ctes
  | .inferClause _ indexElems whereClause => indexElems ++ whereClause.toList
  | .onConflictClause _ infer targetList whereClause =>
      infer.toList ++ targetList ++ whereClause.toList
  | .commonTableExpr _ ctequery => [ctequery]
  | .setToDefault _ => []
  | .currentOfExpr _ => []
  | .list items => items

/-- The names and stars that a column reference is made of. -/
def columnFields : RawNode -> List RawNode
  | .columnRef _ fields => fields
  | _ => []

theorem slots_eq (node : RawNode) : node.slots = node.children ++ node.columnFields := by
  cases node with
  | columnRef location fields => rfl
  | _ => exact (List.append_nil _).symm

theorem sizeOf_lt_of_mem_arms {child : RawNode} {whens : List CaseWhen}
    (hchild : child ∈ whens.flatMap CaseWhen.nodes) : sizeOf child < sizeOf whens := by
  rcases List.mem_flatMap.mp hchild with ⟨arm, harm, hnode⟩
  have hlist : sizeOf arm < sizeOf whens := List.sizeOf_lt_of_mem harm
  have hnodes : sizeOf child < sizeOf arm := by
    cases arm with
    | mk expr result location =>
        simp only [CaseWhen.nodes, List.mem_cons, List.not_mem_nil, or_false] at hnode
        rw [CaseWhen.mk.sizeOf_spec]
        rcases hnode with rfl | rfl
        · omega
        · omega
  omega

theorem sizeOf_lt_of_mem_slots {child node : RawNode} (hchild : child ∈ node.slots) :
    sizeOf child < sizeOf node := by
  cases node with
  | selectStmt data distinctClause into targetList fromClause whereClause groupClause
      havingClause windowClause valuesLists sortClause limitOffset limitCount locking withList
      larg rarg =>
      simp only [slots, List.mem_append, or_assoc] at hchild
      rw [selectStmt.sizeOf_spec]
      rcases hchild with h | h | h | h | h | h | h | h | h | h | h | h | h | h | h | h <;>
        grind [→ List.sizeOf_lt_of_mem, → sizeOf_lt_of_mem_toList]
  | _ =>
      -- a node without slots has nothing to show; any other is larger than each of its fields
      simp only [slots, List.mem_append, List.mem_cons, List.not_mem_nil, or_false] at hchild <;>
        grind [→ List.sizeOf_lt_of_mem, → sizeOf_lt_of_mem_toList, → sizeOf_lt_of_mem_arms]

theorem mem_slots_of_mem_children {child node : RawNode} (hchild : child ∈ node.children) :
    child ∈ node.slots := by
  rw [slots_eq]
  exact List.mem_append_left _ hchild

/-- Induction over raw trees: what holds of a node as soon as it holds of everything that
its fields hold, holds of every node. -/
@[elab_as_elim] theorem inductionOnSlots {motive : RawNode -> Prop}
    (step : forall node : RawNode,
      (forall child : RawNode, child ∈ node.slots -> motive child) -> motive node)
    (node : RawNode) : motive node := by
  apply step
  intro child hchild
  exact inductionOnSlots step child
termination_by sizeOf node
decreasing_by exact sizeOf_lt_of_mem_slots hchild

/-!
# Everything stored in a tree
-/

/-- Every occurrence of a node in the fields of a tree, however far down, the tree itself
included.  Each comes with a depth that counts the steps from the tree to the occurrence,
on from the depth of the tree. -/
def stored (node : RawNode) (depth : Nat) : List (RawNode × Nat) :=
  (node, depth) ::
    node.slots.attach.flatMap fun ⟨child, _hchild⟩ => child.stored (depth + 1)
termination_by sizeOf node
decreasing_by exact sizeOf_lt_of_mem_slots _hchild

theorem stored_eq (node : RawNode) (depth : Nat) :
    node.stored depth =
      (node, depth) :: node.slots.flatMap fun child => child.stored (depth + 1) := by
  rw [stored, List.flatMap_subtype (g := fun child => child.stored (depth + 1)),
    List.unattach_attach]
  intro child hchild
  rfl

/-- What is stored in the fields of a column reference. -/
def storedInColumn (node : RawNode) (depth : Nat) : List (RawNode × Nat) :=
  node.columnFields.flatMap fun field => field.stored (depth + 1)

/-!
# Traces
-/

/-- Every step of a walk that starts with a raw node at `depth`.  The level of the children
is taken whether there are any or not. -/
def itinerary (node : RawNode) (depth : Nat) : List (Step RawNode) :=
  .visit node depth :: .enter (depth + 1) ::
    node.children.attach.flatMap fun ⟨child, _hchild⟩ => child.itinerary (depth + 1)
termination_by sizeOf node
decreasing_by exact sizeOf_lt_of_mem_slots (mem_slots_of_mem_children _hchild)

theorem itinerary_eq (node : RawNode) (depth : Nat) :
    node.itinerary depth =
      .visit node depth :: .enter (depth + 1) ::
        node.children.flatMap fun child => child.itinerary (depth + 1) := by
  rw [itinerary, List.flatMap_subtype (g := fun child => child.itinerary (depth + 1)),
    List.unattach_attach]
  intro child hchild
  rfl

/-- A walk over a raw tree never gives up because of the tree. -/
theorem refuse_notMem_itinerary (node : RawNode) (error : TreeError) (depth : Nat) :
    .refuse error ∉ node.itinerary depth := by
  induction node using inductionOnSlots generalizing depth with
  | step node ih =>
      rw [itinerary_eq]
      simp only [List.mem_cons, List.mem_flatMap, reduceCtorEq, false_or, not_exists, not_and]
      intro child hchild
      exact ih child (mem_slots_of_mem_children hchild) (depth + 1)

/-- The nodes of a raw tree in preorder, with their depths. -/
def trace (node : RawNode) (depth : Nat) : List (RawNode × Nat) :=
  Step.shown (node.itinerary depth)

theorem trace_eq (node : RawNode) (depth : Nat) :
    node.trace depth =
      (node, depth) :: node.children.flatMap fun child => child.trace (depth + 1) := by
  rw [trace, itinerary_eq, Step.shown_visit, Step.shown_enter, Step.shown_flatMap]
  rfl

/-- The trace and the insides of the column references on it are all that is stored. -/
theorem stored_perm_trace (node : RawNode) (depth : Nat) :
    (node.stored depth).Perm
      (node.trace depth ++
        (node.trace depth).flatMap fun (shown, deeper) => shown.storedInColumn deeper) := by
  induction node using inductionOnSlots generalizing depth with
  | step node ih =>
      have hchildren :
          (node.children.flatMap fun child => child.stored (depth + 1)).Perm
            ((node.children.flatMap fun child => child.trace (depth + 1)) ++
              (node.children.flatMap fun child => child.trace (depth + 1)).flatMap
                fun (shown, deeper) => shown.storedInColumn deeper) := by
        rw [List.flatMap_assoc]
        refine List.Perm.trans (List.Perm.flatMap_left _ ?_) (List.flatMap_append_perm _ _ _).symm
        intro child hchild
        exact ih child (mem_slots_of_mem_children hchild) (depth + 1)
      rw [stored_eq, trace_eq, slots_eq, List.flatMap_append, List.cons_append, List.flatMap_cons]
      apply List.Perm.cons
      refine (hchildren.append_right _).trans ?_
      rw [List.append_assoc]
      apply List.Perm.append_left
      exact List.perm_append_comm

end RawNode

/-- Where an element of a flattened list stands: in what one of the members became, of
which the rest follows it. -/
theorem exists_of_flatMap_eq_append_cons {α β : Type} {f : α -> List β} {xs : List α}
    {before after : List β} {y : β} (hsplit : xs.flatMap f = before ++ y :: after) :
    exists (x : α) (left right : List β),
      x ∈ xs ∧ f x = left ++ y :: right ∧ right <+: after := by
  induction xs generalizing before with
  | nil => simp at hsplit
  | cons x rest ih =>
      rw [List.flatMap_cons, List.append_eq_append_iff] at hsplit
      rcases hsplit with ⟨gap, hbefore, hrest⟩ | ⟨gap, hfirst, hafter⟩
      · rcases ih hrest with ⟨other, left, right, hother, hparts⟩
        exact ⟨other, left, right, List.mem_cons_of_mem x hother, hparts⟩
      · cases gap with
        | nil =>
            have hlater : rest.flatMap f = [] ++ y :: after := hafter.symm
            rcases ih hlater with ⟨other, left, right, hother, hparts⟩
            exact ⟨other, left, right, List.mem_cons_of_mem x hother, hparts⟩
        | cons first gap =>
            rw [List.cons_append, List.cons.injEq] at hafter
            rcases hafter with ⟨rfl, hafter⟩
            refine ⟨x, before, gap, List.mem_cons_self, hfirst, ?_⟩
            rw [hafter]
            exact List.prefix_append gap _

namespace RawNode

/-- Wherever a node stands on a trace, its own trace starts there: what is below it comes
right after it. -/
theorem trace_prefix_of_split {node shown : RawNode} {depth deeper : Nat}
    {before after : List (RawNode × Nat)}
    (hsplit : node.trace depth = before ++ (shown, deeper) :: after) :
    shown.trace deeper <+: (shown, deeper) :: after := by
  induction node using inductionOnSlots generalizing depth before after with
  | step node ih =>
      have htrace := hsplit
      rw [trace_eq] at hsplit
      cases before with
      | nil =>
          rw [List.nil_append, List.cons.injEq, Prod.mk.injEq] at hsplit
          rcases hsplit with ⟨⟨rfl, rfl⟩, _⟩
          exact ⟨[], (List.append_nil _).trans htrace⟩
      | cons first before =>
          rw [List.cons_append, List.cons.injEq] at hsplit
          rcases exists_of_flatMap_eq_append_cons hsplit.right with
            ⟨child, left, right, hchild, hinner, hright⟩
          have hshown := ih child (mem_slots_of_mem_children hchild) hinner
          exact hshown.trans ((List.prefix_cons_inj _).mpr hright)

end RawNode

/-- A trace of raw trees that is in preorder and complete: every node stands before what
its fields hold, in the order of the fields and one deeper; what is below a node comes
right after it; and every stored node is there as often as it is stored, except what is
in the fields of column references. -/
structure ShowsRawTree (trace : RawNode -> Nat -> List (RawNode × Nat)) : Prop where
  fields : forall (node : RawNode) (depth : Nat),
    exists below : List RawNode, node.slots = below ++ node.columnFields ∧
      trace node depth = (node, depth) :: below.flatMap fun child => trace child (depth + 1)
  above_first : forall (node shown : RawNode) (depth deeper : Nat)
    (before after : List (RawNode × Nat)),
    trace node depth = before ++ (shown, deeper) :: after ->
      trace shown deeper <+: (shown, deeper) :: after
  complete : forall (node : RawNode) (depth : Nat),
    (node.stored depth).Perm
      (trace node depth ++
        (trace node depth).flatMap fun (shown, deeper) => shown.storedInColumn deeper)

theorem RawNode.showsRawTree_trace : ShowsRawTree RawNode.trace where
  fields node depth := ⟨node.children, slots_eq node, trace_eq node depth⟩
  above_first _node _shown _depth _deeper _before _after := trace_prefix_of_split
  complete := stored_perm_trace

/-!
# Walks as folds
-/

variable {σ ε : Type}

variable [OfTreeError ε]

/-- A walk over a raw tree takes the steps of its itinerary. -/
theorem performs_walkRawTree {callback : RawVisitor σ ε}
    (hcallback : forall node : RawNode, (callback node).Balanced) (node : RawNode)
    (nesting : Nesting) :
    Performs callback (node.itinerary nesting.depth) nesting (walkRawTree callback node) := by
  apply performs_recurse
  intro visit nesting hvisit node
  rw [RawNode.itinerary_eq]
  apply Performs.andThen (performs_callback hcallback node)
  apply Performs.guarded
  intro hlimit
  exact hvisit.visitAll hlimit node.children

/-- A walk over a raw tree is the left fold of its callback over the trace, unless it hits
the limit, which is then the error it ends with.  The trace is in preorder and complete,
and knows nothing of the callback. -/
theorem walkRawTree_eq_foldTrace (callback : RawVisitor σ ε)
    (hcallback : forall node : RawNode, (callback node).Balanced) (node : RawNode)
    (nesting : Nesting) (state : σ) :
    ShowsRawTree RawNode.trace ∧
      (¬ HitsLimit callback nesting.limit (node.itinerary nesting.depth) state ->
        runFrom (walkRawTree callback node) nesting state =
          endAt nesting (foldTrace callback nesting.limit (node.trace nesting.depth) state)) ∧
      (HitsLimit callback nesting.limit (node.itinerary nesting.depth) state ->
        exists depth : Nat, nesting.limit < depth ∧
          (runFrom (walkRawTree callback node) nesting state).1 =
            .error (OfTreeError.ofTreeError (.stackDepthExceeded depth nesting.limit))) := by
  refine ⟨RawNode.showsRawTree_trace, ?_, ?_⟩
  · intro hlimit
    rw [performs_walkRawTree hcallback node nesting state, replay_eq_foldTrace _ hlimit]
    · rfl
    · intro error
      exact node.refuse_notMem_itinerary error nesting.depth
  · intro hhits
    rw [performs_walkRawTree hcallback node nesting state]
    exact replay_of_hitsLimit hhits

/-- The cast of a qualified column to a type with a modifier. -/
def RawNode.columnCast : RawNode :=
  .typeCast none (.columnRef none [.value (.string "t"), .aStar])
    (.typeName { names := ["numeric"], setof := false, pctType := false, location := none }
      [.aConst { val := .integer 10, location := none }] [])

/-- Note the kind of each raw node shown, and stop at a type name. -/
def noteToTypeName (node : RawNode) : Traversal (List RawNode.Tag) TreeError Control := do
  modifyState (· ++ [node.tag])
  return if node.tag = .typeName then .stop else .proceed

/-- The modifier of the type in `columnCast` would need a third level, but the walk stops
before it asks for one; the name and the star of the column are not shown. -/
theorem walkRawTree_eq_foldTrace_columnCast :
    runFrom (walkRawTree noteToTypeName RawNode.columnCast) (.start 2) [] =
        (.ok .stop, .start 2, [.typeCast, .columnRef, .typeName]) ∧
      runFrom (walkRawTree noteToTypeName RawNode.columnCast) (.start 2) [] =
        endAt (.start 2) (foldTrace noteToTypeName 2 (RawNode.columnCast.trace 0) []) := by
  have hrun :
      runFrom (walkRawTree noteToTypeName RawNode.columnCast) (.start 2) [] =
        (.ok .stop, .start 2, [.typeCast, .columnRef, .typeName]) :=
    rfl
  have hwalk :=
    walkRawTree_eq_foldTrace noteToTypeName (fun _ _ _ => rfl) RawNode.columnCast (.start 2) []
  refine ⟨hrun, hwalk.right.left ?_⟩
  intro hhits
  rcases hwalk.right.right hhits with ⟨depth, _hdepth, herror⟩
  rw [hrun] at herror
  cases herror

end QueryTree
