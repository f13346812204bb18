import QueryTree.Node.Children
import QueryTree.Scope

/-!
# The clauses of a query and the contents of a range-table entry

A query is taken apart in three portions: its clauses, its range table, and its
`WITH` list.  Grouping, windows, `DISTINCT` and sorting are not among the
clauses, since they refer back to output columns.  Which contents of an entry
count depends on the scope.
-/

namespace QueryTree

namespace Query

/-- The top-level nodes of a query, in order. -/
def clauses (q : Query) : List Node :=
  q.targetList ++ q.withCheckOptions ++ q.onConflict.toList ++ q.returningList ++
    q.jointree.toList ++ q.setOperations.toList ++ q.havingQual.toList ++
    q.limitOffset.toList ++ q.limitCount.toList

open Node.Refill in
/-- The query with its clauses refilled in order. -/
def refillClauses (q : Query) : Node.Refill Query := do
  let targetList ← many q.targetList
  let withCheckOptions ← many q.withCheckOptions
  let onConflict ← opt q.onConflict
  let returningList ← many q.returningList
  let jointree ← opt q.jointree
  let setOperations ← opt q.setOperations
  let havingQual ← opt q.havingQual
  let limitOffset ← opt q.limitOffset
  let limitCount ← opt q.limitCount
  return {
    q with
    targetList, withCheckOptions, onConflict, returningList, jointree, setOperations,
    havingQual, limitOffset, limitCount }

/-- The query with its clauses replaced, in the order of `clauses`. -/
def withClauses (q : Query) (supply : List Node) : Query :=
  (q.refillClauses supply).1

end Query

namespace RteKind

/-- The nodes of an entry kind that a scope covers. -/
def contents (scope : Scope) : RteKind -> List Node
  | .relation _ _ tablesample => tablesample.toList
  | .subquery inner _ => if scope.skipSubqueries then [] else [inner]
  | .join _ aliasVars => if scope.skipJoinAliases then [] else aliasVars
  | .function functions _ => functions
  | .values rows _ => rows
  | .cte _ => []

open Node.Refill in
/-- The entry kind with the nodes that a scope covers refilled in order. -/
def refill (scope : Scope) : RteKind -> Node.Refill RteKind
  | .relation relId relKind tablesample => do
      return .relation relId relKind (← opt tablesample)
  | .subquery inner securityBarrier =>
      if scope.skipSubqueries then pure (.subquery inner securityBarrier)
      else do return .subquery (← one inner) securityBarrier
  | .join joinType aliasVars =>
      if scope.skipJoinAliases then pure (.join joinType aliasVars)
      else do return .join joinType (← many aliasVars)
  | .function functions ordinality => do
      return .function (← many functions) ordinality
  | .values rows collations => do return .values (← many rows) collations
  | .cte reference => pure (.cte reference)

end RteKind

namespace RangeTblEntry

/-- The nodes of an entry that a scope covers: those of its kind, then its
security conditions. -/
def contents (scope : Scope) (entry : RangeTblEntry) : List Node :=
  entry.kind.contents scope ++ entry.securityQuals

open Node.Refill in
def refill (scope : Scope) (entry : RangeTblEntry) : Node.Refill RangeTblEntry := do
  let kind ← entry.kind.refill scope
  let securityQuals ← many entry.securityQuals
  return { entry with kind, securityQuals }

/-- The entry with its contents replaced, in the order of `contents`. -/
def withContents (scope : Scope) (entry : RangeTblEntry) (supply : List Node) : RangeTblEntry :=
  (entry.refill scope supply).1

end RangeTblEntry

end QueryTree
