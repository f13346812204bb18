import QueryTree.Node.Clauses

/-!
# The slots of a node

The children of a node are what a walk shows.  Its slots are what its fields hold,
read off the data alone, so that the two can be compared.  A node in a slot is
smaller than the node that holds it, which is what every recursion over a tree
ends by.
-/

namespace QueryTree

/-!
# What the fields hold
-/

namespace Query

/-- The query that holds nothing. -/
def bare : Query where
  header := {
    commandType := .select, canSetTag := false, resultRelation := 0, hasAggs := false,
    hasWindowFuncs := false, hasSubLinks := false, hasDistinctOn := false,
    hasRecursive := false, hasModifyingCte := false, hasForUpdate := false }
  cteList := []
  rtable := []
  jointree := none
  targetList := []
  withCheckOptions := []
  onConflict := none
  returningList := []
  groupClause := []
  havingQual := none
  windowClause := []
  distinctClause := []
  sortClause := []
  limitOffset := none
  limitCount := none
  setOperations := none

/-- The nodes that the fields of a query hold, in declaration order. -/
def slots (q : Query) : List Node :=
  q.cteList ++ q.rtable ++ q.jointree.toList ++ q.targetList ++ q.withCheckOptions ++
    q.onConflict.toList ++ q.returningList ++ q.groupClause ++ q.havingQual.toList ++
    q.windowClause ++ q.distinctClause ++ q.sortClause ++ q.limitOffset.toList ++
    q.limitCount.toList ++ q.setOperations.toList

end Query

namespace RteKind

/-- The nodes that an entry kind holds. -/
def slots : RteKind -> List Node
  | .relation _ _ tablesample => tablesample.toList
  | .subquery inner _ => [inner]
  | .join _ aliasVars => aliasVars
  | .function functions _ => functions
  | .values rows _ => rows
  | .cte _ => []

end RteKind

namespace RangeTblEntry

/-- The nodes that the fields of a range-table entry hold. -/
def slots (entry : RangeTblEntry) : List Node :=
  entry.kind.slots ++ entry.securityQuals

end RangeTblEntry

namespace Node

/-- The nodes that the fields of a node hold, whether a walk shows them or not. -/
def slots : Node -> List Node
  | .var _ => []
  | .const _ => []
  | .param _ => []
  | .aggref _ directArgs args order distinct filter =>
      directArgs ++ args ++ order ++ distinct ++ filter.toList
  | .groupingFunc _ args => args
  | .windowFunc _ args filter => args ++ filter.toList
  | .arrayRef _ upperIndex lowerIndex expr assignExpr =>
      upperIndex ++ lowerIndex ++ [expr] ++ assignExpr.toList
  | .funcExpr _ args => args
  | .namedArgExpr _ arg => [arg]
  | .opExpr _ args => args
  | .distinctExpr _ args => args
  | .nullIfExpr _ args => args
  | .scalarArrayOpExpr _ args => args
  | .boolExpr _ args => args
  | .subLink _ testExpr subselect => testExpr.toList ++ [subselect]
  | .fieldSelect _ arg => [arg]
  | .fieldStore _ arg newValues => [arg] ++ newValues
  | .relabelType _ arg => [arg]
  | .coerceViaInOut _ arg => [arg]
  | .arrayCoerceExpr _ arg => [arg]
  | .convertRowtypeExpr _ arg => [arg]
  | .collateExpr _ arg => [arg]
  | .caseExpr _ arg whens otherwise =>
      arg.toList ++ whens.flatMap CaseWhen.nodes ++ otherwise.toList
  | .caseTestExpr _ => []
  | .arrayExpr _ elements => elements
  | .rowExpr _ args => args
  | .rowCompareExpr _ leftArgs rightArgs => leftArgs ++ rightArgs
  | .coalesceExpr _ args => args
  | .minMaxExpr _ args => args
  | .xmlExpr _ namedArgs args => namedArgs ++ args
  | .nullTest _ arg => [arg]
  | .booleanTest _ arg => [arg]
  | .coerceToDomain _ arg => [arg]
  | .coerceToDomainValue _ => []
  | .setToDefault _ => []
  | .currentOfExpr _ => []
  | .inferenceElem _ expr => [expr]
  | .targetEntry _ expr => [expr]
  | .rangeTblRef _ => []
  | .joinExpr _ left right quals => [left, right] ++ quals.toList
  | .fromExpr fromList quals => fromList ++ quals.toList
  | .onConflictExpr _ arbiterElems arbiterWhere setList whereClause excludedTlist =>
      arbiterElems ++ arbiterWhere.toList ++ setList ++ whereClause.toList ++ excludedTlist
  | .setOperationStmt _ left right groupClauses => [left, right] ++ groupClauses
  | .sortGroupClause _ => []
  | .windowClause _ partitionClause orderClause startOffset endOffset =>
      partitionClause ++ orderClause ++ startOffset.toList ++ endOffset.toList
  | .withCheckOption _ qual => [qual]
  | .commonTableExpr _ body => [body]
  | .rangeTblFunction _ call => [call]
  | .tableSampleClause _ args repeatable => args ++ repeatable.toList
  | .query q => q.slots
  | .rangeTblEntry entry => entry.slots
  | .list items => items

end Node

/-!
# Size
-/

theorem sizeOf_lt_of_mem_toList {α : Type} [SizeOf α] {child : α} {slot : Option α}
    (hchild : child ∈ slot.toList) : sizeOf child < sizeOf slot := by
  cases slot with
  | none => cases hchild
  | some node =>
      have heq : child = node := by simpa using hchild
      rw [heq, Option.some.sizeOf_spec]
      omega

namespace Node

theorem sizeOf_lt_of_mem_arms {child : Node} {whens : List CaseWhen}
    (hchild : child ∈ whens.flatMap CaseWhen.nodes) : sizeOf child < sizeOf whens := by
  rcases List.mem_flatMap.mp hchild with ⟨arm, harm, hnode⟩
  have hlist : sizeOf arm < sizeOf whens := List.sizeOf_lt_of_mem harm
  have hnodes : sizeOf child < sizeOf arm := by
    cases arm with
    | mk expr result location =>
        simp only [CaseWhen.nodes, List.mem_cons, List.not_mem_nil, or_false] at hnode
        rw [CaseWhen.mk.sizeOf_spec]
        rcases hnode with rfl | rfl
        · omega
        · omega
  omega

end Node

theorem Query.sizeOf_lt_of_mem_slots {child : Node} {q : Query} (hchild : child ∈ q.slots) :
    sizeOf child < sizeOf q := by
  cases q with
  | mk header cteList rtable jointree targetList withCheckOptions onConflict returningList
      groupClause havingQual windowClause distinctClause sortClause limitOffset limitCount
      setOperations =>
      simp only [slots, List.mem_append, or_assoc] at hchild
      rw [Query.mk.sizeOf_spec]
      rcases hchild with h | h | h | h | h | h | h | h | h | h | h | h | h | h | h <;>
        grind [→ List.sizeOf_lt_of_mem, → sizeOf_lt_of_mem_toList]

theorem RteKind.sizeOf_lt_of_mem_slots {child : Node} {kind : RteKind}
    (hchild : child ∈ kind.slots) : sizeOf child < sizeOf kind := by
  cases kind with
  | relation relId relKind tablesample =>
      have hslot := sizeOf_lt_of_mem_toList hchild
      rw [RteKind.relation.sizeOf_spec]
      omega
  | subquery inner securityBarrier =>
      have heq : child = inner := List.mem_singleton.mp hchild
      rw [heq, RteKind.subquery.sizeOf_spec]
      omega
  | join joinType aliasVars =>
      have hlist : sizeOf child < sizeOf aliasVars := List.sizeOf_lt_of_mem hchild
      rw [RteKind.join.sizeOf_spec]
      omega
  | function functions ordinality =>
      have hlist : sizeOf child < sizeOf functions := List.sizeOf_lt_of_mem hchild
      rw [RteKind.function.sizeOf_spec]
      omega
  | values rows collations =>
      have hlist : sizeOf child < sizeOf rows := List.sizeOf_lt_of_mem hchild
      rw [RteKind.values.sizeOf_spec]
      omega
  | cte reference => cases hchild

theorem RangeTblEntry.sizeOf_lt_of_mem_slots {child : Node} {entry : RangeTblEntry}
    (hchild : child ∈ entry.slots) : sizeOf child < sizeOf entry := by
  cases entry with
  | mk kind header securityQuals =>
      rw [RangeTblEntry.mk.sizeOf_spec]
      rcases List.mem_append.mp hchild with hkind | hquals
      · have hslot : sizeOf child < sizeOf kind := RteKind.sizeOf_lt_of_mem_slots hkind
        omega
      · have hlist : sizeOf child < sizeOf securityQuals := List.sizeOf_lt_of_mem hquals
        omega

namespace Node

theorem sizeOf_lt_of_mem_slots {child node : Node} (hchild : child ∈ node.slots) :
    sizeOf child < sizeOf node := by
  cases node with
  | query q =>
      have hslot : sizeOf child < sizeOf q := Query.sizeOf_lt_of_mem_slots hchild
      rw [Node.query.sizeOf_spec]
      omega
  | rangeTblEntry entry =>
      have hslot : sizeOf child < sizeOf entry := RangeTblEntry.sizeOf_lt_of_mem_slots hchild
      rw [Node.rangeTblEntry.sizeOf_spec]
      omega
  | _ =>
      -- a node without slots has nothing to show; any other is larger than each of its fields
      simp only [slots, List.mem_append, List.mem_cons, List.not_mem_nil, or_false] at hchild <;>
        grind [→ List.sizeOf_lt_of_mem, → sizeOf_lt_of_mem_toList, → sizeOf_lt_of_mem_arms]

/-!
# Children among the slots

Queries and range-table entries are taken apart in ways of their own.  For every
other node the slots are the children, and after them the grouping keys of a set
operation.
-/

/-- A node that is neither a query nor a range-table entry. -/
def Plain (node : Node) : Prop :=
  node.tag ≠ .query ∧ node.tag ≠ .rangeTblEntry

/-- Cases by the way in which a node is taken apart. -/
@[elab_as_elim] theorem byParts {motive : Node -> Prop}
    (query : forall q : Query, motive (.query q))
    (entry : forall entry : RangeTblEntry, motive (.rangeTblEntry entry))
    (plain : forall node : Node, node.Plain -> motive node) (node : Node) : motive node := by
  by_cases hquery : node.tag = .query
  · cases node with
    | query q => exact query q
    | _ => cases hquery
  · by_cases hentry : node.tag = .rangeTblEntry
    · cases node with
      | rangeTblEntry e => exact entry e
      | _ => cases hentry
    · exact plain node ⟨hquery, hentry⟩

theorem plain_of_mem_children {child node : Node} (hchild : child ∈ node.children) :
    node.Plain := by
  induction node using byParts with
  | query q => cases hchild
  | entry entry => cases hchild
  | plain node hplain => exact hplain

/-- The keys by which a set operation groups. -/
def groupKeys : Node -> List Node
  | .setOperationStmt _ _ _ groupClauses => groupClauses
  | _ => []

theorem slots_of_plain {node : Node} (hplain : node.Plain) :
    node.slots = node.children ++ node.groupKeys := by
  cases node with
  | query q => exact absurd rfl hplain.left
  | rangeTblEntry entry => exact absurd rfl hplain.right
  | setOperationStmt data left right groupClauses => rfl
  | _ => exact (List.append_nil _).symm

theorem mem_slots_of_mem_children {child node : Node} (hplain : node.Plain)
    (hchild : child ∈ node.children) : child ∈ node.slots := by
  rw [slots_of_plain hplain]
  exact List.mem_append_left _ hchild

theorem sizeOf_lt_of_mem_children {child node : Node} (hchild : child ∈ node.children) :
    sizeOf child < sizeOf node :=
  sizeOf_lt_of_mem_slots (mem_slots_of_mem_children (plain_of_mem_children hchild) hchild)

end Node

theorem Query.mem_slots_of_mem_clauses {child : Node} {q : Query} (hchild : child ∈ q.clauses) :
    child ∈ q.slots := by
  simp only [clauses, slots, List.mem_append] at hchild ⊢
  grind

theorem Query.mem_slots_of_mem_rtable {child : Node} {q : Query} (hchild : child ∈ q.rtable) :
    child ∈ q.slots := by
  simp only [slots, List.mem_append]
  grind

theorem Query.mem_slots_of_mem_cteList {child : Node} {q : Query} (hchild : child ∈ q.cteList) :
    child ∈ q.slots := by
  simp only [slots, List.mem_append]
  grind

theorem RteKind.contents_everything (kind : RteKind) :
    kind.contents .everything = kind.slots := by
  cases kind <;> rfl

theorem RangeTblEntry.contents_everything (entry : RangeTblEntry) :
    entry.contents .everything = entry.slots := by
  rw [contents, RteKind.contents_everything, slots]

theorem RteKind.mem_slots_of_mem_contents {child : Node} {scope : Scope} {kind : RteKind}
    (hchild : child ∈ kind.contents scope) : child ∈ kind.slots := by
  cases kind with
  | subquery inner securityBarrier =>
      rw [contents] at hchild
      split at hchild
      · cases hchild
      · exact hchild
  | join joinType aliasVars =>
      rw [contents] at hchild
      split at hchild
      · cases hchild
      · exact hchild
  | _ => exact hchild

theorem RangeTblEntry.mem_slots_of_mem_contents {child : Node} {scope : Scope}
    {entry : RangeTblEntry} (hchild : child ∈ entry.contents scope) : child ∈ entry.slots := by
  rcases List.mem_append.mp hchild with hkind | hquals
  · exact List.mem_append_left _ (RteKind.mem_slots_of_mem_contents hkind)
  · exact List.mem_append_right _ hquals

end QueryTree
