import QueryTree.Node.Tag

/-!
# The children of a node

`children` lists the nodes directly below a node, in the order in which every
traversal meets them.  `rebuild` puts a list of the same length back into the
same slots, so the two together say once and for all how a node is taken apart
and put together again.

A query and a range-table entry have no children here: what is below them is
reached through their clauses and contents, and depends on the traversal.  The
group clauses of a set operation are no children either, since they only refer
to output columns.
-/

namespace QueryTree

/-- The two nodes of a `WHEN`. -/
def CaseWhen.nodes (w : CaseWhen) : List Node :=
  [w.expr, w.result]

namespace Node

/-- The nodes directly below a node, in order. -/
def children : Node -> List Node
  | .var .. | .const .. | .param .. | .caseTestExpr .. | .coerceToDomainValue ..
  | .setToDefault .. | .currentOfExpr .. | .rangeTblRef .. | .sortGroupClause ..
  | .query .. | .rangeTblEntry .. => []
  | .aggref _ directArgs args order distinct filter =>
      directArgs ++ args ++ order ++ distinct ++ filter.toList
  | .groupingFunc _ args => args
  | .windowFunc _ args filter => args ++ filter.toList
  | .arrayRef _ upperIndex lowerIndex expr assignExpr =>
      upperIndex ++ lowerIndex ++ [expr] ++ assignExpr.toList
  | .funcExpr _ args => args
  | .namedArgExpr _ arg => [arg]
  | .opExpr _ args => args
  | .distinctExpr _ args => args
  | .nullIfExpr _ args => args
  | .scalarArrayOpExpr _ args => args
  | .boolExpr _ args => args
  | .subLink _ testExpr subselect => testExpr.toList ++ [subselect]
  | .fieldSelect _ arg => [arg]
  | .fieldStore _ arg newValues => [arg] ++ newValues
  | .relabelType _ arg => [arg]
  | .coerceViaInOut _ arg => [arg]
  | .arrayCoerceExpr _ arg => [arg]
  | .convertRowtypeExpr _ arg => [arg]
  | .collateExpr _ arg => [arg]
  | .caseExpr _ arg whens otherwise =>
      arg.toList ++ whens.flatMap CaseWhen.nodes ++ otherwise.toList
  | .arrayExpr _ elements => elements
  | .rowExpr _ args => args
  | .rowCompareExpr _ leftArgs rightArgs => leftArgs ++ rightArgs
  | .coalesceExpr _ args => args
  | .minMaxExpr _ args => args
  | .xmlExpr _ namedArgs args => namedArgs ++ args
  | .nullTest _ arg => [arg]
  | .booleanTest _ arg => [arg]
  | .coerceToDomain _ arg => [arg]
  | .inferenceElem _ expr => [expr]
  | .targetEntry _ expr => [expr]
  | .joinExpr _ left right quals => [left, right] ++ quals.toList
  | .fromExpr fromList quals => fromList ++ quals.toList
  | .onConflictExpr _ arbiterElems arbiterWhere setList whereClause excludedTlist =>
      arbiterElems ++ arbiterWhere.toList ++ setList ++ whereClause.toList ++
        excludedTlist
  | .setOperationStmt _ left right _ => [left, right]
  | .windowClause _ partitionClause orderClause startOffset endOffset =>
      partitionClause ++ orderClause ++ startOffset.toList ++ endOffset.toList
  | .withCheckOption _ qual => [qual]
  | .commonTableExpr _ body => [body]
  | .rangeTblFunction _ call => [call]
  | .tableSampleClause _ args repeatable => args ++ repeatable.toList
  | .list items => items

/-!
# Refilling slots

Slots are refilled one after the other from a supply of nodes.
-/

/-- A computation that takes nodes from a supply. -/
abbrev Refill := StateM (List Node)

namespace Refill

/-- A slot that holds one node takes one; it keeps its own when there is none. -/
def one (old : Node) : Refill Node := fun supply =>
  match supply with
  | [] => (old, [])
  | new :: rest => (new, rest)

/-- A slot takes a node if it held one. -/
def opt : Option Node -> Refill (Option Node)
  | none => pure none
  | some old => do return some (← one old)

/-- A list slot takes as many nodes as it held. -/
def many (old : List Node) : Refill (List Node) := fun supply =>
  (supply.take old.length, supply.drop old.length)

/-- Every `WHEN` takes two nodes. -/
def arms : List CaseWhen -> Refill (List CaseWhen)
  | [] => pure []
  | w :: rest => do
      let w := { w with expr := ← one w.expr, result := ← one w.result }
      return w :: (← arms rest)

end Refill

open Refill in
/-- The node with its slots refilled in the order of `children`. -/
def refill : Node -> Refill Node
  | .aggref data directArgs args order distinct filter => do
      return .aggref data (← many directArgs) (← many args) (← many order)
          (← many distinct) (← opt filter)
  | .groupingFunc data args => do return .groupingFunc data (← many args)
  | .windowFunc data args filter => do
      return .windowFunc data (← many args) (← opt filter)
  | .arrayRef data upperIndex lowerIndex expr assignExpr => do
      return .arrayRef data (← many upperIndex) (← many lowerIndex) (← one expr)
          (← opt assignExpr)
  | .funcExpr data args => do return .funcExpr data (← many args)
  | .namedArgExpr data arg => do return .namedArgExpr data (← one arg)
  | .opExpr data args => do return .opExpr data (← many args)
  | .distinctExpr data args => do return .distinctExpr data (← many args)
  | .nullIfExpr data args => do return .nullIfExpr data (← many args)
  | .scalarArrayOpExpr data args => do return .scalarArrayOpExpr data (← many args)
  | .boolExpr data args => do return .boolExpr data (← many args)
  | .subLink data testExpr subselect => do
      return .subLink data (← opt testExpr) (← one subselect)
  | .fieldSelect data arg => do return .fieldSelect data (← one arg)
  | .fieldStore data arg newValues => do
      return .fieldStore data (← one arg) (← many newValues)
  | .relabelType data arg => do return .relabelType data (← one arg)
  | .coerceViaInOut data arg => do return .coerceViaInOut data (← one arg)
  | .arrayCoerceExpr data arg => do return .arrayCoerceExpr data (← one arg)
  | .convertRowtypeExpr data arg => do return .convertRowtypeExpr data (← one arg)
  | .collateExpr data arg => do return .collateExpr data (← one arg)
  | .caseExpr data arg whens otherwise => do
      return .caseExpr data (← opt arg) (← arms whens) (← opt otherwise)
  | .arrayExpr data elements => do return .arrayExpr data (← many elements)
  | .rowExpr data args => do return .rowExpr data (← many args)
  | .rowCompareExpr data leftArgs rightArgs => do
      return .rowCompareExpr data (← many leftArgs) (← many rightArgs)
  | .coalesceExpr data args => do return .coalesceExpr data (← many args)
  | .minMaxExpr data args => do return .minMaxExpr data (← many args)
  | .xmlExpr data namedArgs args => do
      return .xmlExpr data (← many namedArgs) (← many args)
  | .nullTest data arg => do return .nullTest data (← one arg)
  | .booleanTest data arg => do return .booleanTest data (← one arg)
  | .coerceToDomain data arg => do return .coerceToDomain data (← one arg)
  | .inferenceElem data expr => do return .inferenceElem data (← one expr)
  | .targetEntry data expr => do return .targetEntry data (← one expr)
  | .joinExpr data left right quals => do
      return .joinExpr data (← one left) (← one right) (← opt quals)
  | .fromExpr fromList quals => do return .fromExpr (← many fromList) (← opt quals)
  | .onConflictExpr data arbiterElems arbiterWhere setList whereClause excludedTlist => do
      return .onConflictExpr data (← many arbiterElems) (← opt arbiterWhere)
          (← many setList) (← opt whereClause) (← many excludedTlist)
  | .setOperationStmt data left right groupClauses => do
      return .setOperationStmt data (← one left) (← one right) groupClauses
  | .windowClause data partitionClause orderClause startOffset endOffset => do
      return .windowClause data (← many partitionClause) (← many orderClause)
          (← opt startOffset) (← opt endOffset)
  | .withCheckOption data qual => do return .withCheckOption data (← one qual)
  | .commonTableExpr data body => do return .commonTableExpr data (← one body)
  | .rangeTblFunction data call => do return .rangeTblFunction data (← one call)
  | .tableSampleClause handler args repeatable => do
      return .tableSampleClause handler (← many args) (← opt repeatable)
  | .list items => do return .list (← many items)
  | node => pure node

/-- The node with its children replaced, in the order of `children`. -/
def rebuild (node : Node) (supply : List Node) : Node :=
  (node.refill supply).1

end Node

end QueryTree
