import QueryTree.RawNode.Tag

/-!
# The children of a raw node

The nodes directly below a raw node, in the order in which a walk meets them.
The fields of a column reference are names and stars, and no children.
-/

namespace QueryTree
namespace RawNode

/-- The two nodes of a `WHEN`. -/
def CaseWhen.nodes (w : CaseWhen) : List RawNode :=
  [w.expr, w.result]

/-- The nodes directly below a raw node, in order. -/
def children : RawNode -> List RawNode
  | .value .. | .paramRef .. | .aConst .. | .aStar .. | .rangeAlias .. | .columnRef ..
  | .setToDefault .. | .currentOfExpr .. => []
  | .rangeVar _ correlation => correlation.toList
  | .groupingFunc _ args => args
  | .subLink _ testExpr subselect => testExpr.toList ++ [subselect]
  | .caseExpr _ arg whens otherwise =>
      arg.toList ++ whens.flatMap CaseWhen.nodes ++ otherwise.toList
  | .rowExpr _ args => args
  | .coalesceExpr _ args => args
  | .minMaxExpr _ args => args
  | .xmlExpr _ namedArgs args => namedArgs ++ args
  | .nullTest _ arg => [arg]
  | .booleanTest _ arg => [arg]
  | .joinExpr _ larg rarg quals correlation =>
      [larg, rarg] ++ quals.toList ++ correlation.toList
  | .intoClause _ rel viewQuery => [rel] ++ viewQuery.toList
  | .insertStmt relation cols select onConflict returningList withList =>
      [relation] ++ cols ++ select.toList ++ onConflict.toList ++ returningList ++
        withList.toList
  | .deleteStmt relation usingClause whereClause returningList withList =>
      [relation] ++ usingClause ++ whereClause.toList ++ returningList ++ withList.toList
  | .updateStmt relation targetList whereClause fromClause returningList withList =>
      [relation] ++ targetList ++ whereClause.toList ++ fromClause ++ returningList ++
        withList.toList
  | .selectStmt _ distinctClause into targetList fromClause whereClause groupClause
        havingClause windowClause valuesLists sortClause limitOffset limitCount
        locking withList larg rarg =>
      distinctClause ++ into.toList ++ targetList ++ fromClause ++ whereClause.toList ++
        groupClause ++ havingClause.toList ++ windowClause ++ valuesLists ++ sortClause ++
        limitOffset.toList ++ limitCount.toList ++ locking ++ withList.toList ++
        larg.toList ++ rarg.toList
  | .aExpr _ lexpr rexpr => lexpr.toList ++ rexpr.toList
  | .funcCall _ args aggOrder aggFilter window =>
      args ++ aggOrder ++ aggFilter.toList ++ window.toList
  | .namedArgExpr _ arg => [arg]
  | .aIndices lidx uidx => lidx.toList ++ uidx.toList
  | .aIndirection arg indirection => [arg] ++ indirection
  | .aArrayExpr _ elements => elements
  | .resTarget _ indirection val => indirection ++ val.toList
  | .multiAssignRef _ source => [source]
  | .typeCast _ arg type => [arg, type]
  | .collateClause _ arg => arg.toList
  | .sortBy _ node => [node]
  | .windowDef _ partitionClause orderClause startOffset endOffset =>
      partitionClause ++ orderClause ++ startOffset.toList ++ endOffset.toList
  | .rangeSubselect _ subquery correlation => [subquery] ++ correlation.toList
  | .rangeFunction _ functions correlation coldeflist =>
      functions ++ correlation.toList ++ coldeflist
  | .rangeTableSample _ relation args repeatable =>
      [relation] ++ args ++ repeatable.toList
  | .typeName _ typmods arrayBounds => typmods ++ arrayBounds
  | .columnDef _ type rawDefault collClause =>
      type.toList ++ rawDefault.toList ++ collClause.toList
  | .indexElem _ expr => expr.toList
  | .groupingSet _ content => content
  | .lockingClause _ lockedRels => lockedRels
  | .xmlSerialize _ expr type => [expr, type]
  | .withClause _ ctes => ctes
  | .inferClause _ indexElems whereClause => indexElems ++ whereClause.toList
  | .onConflictClause _ infer targetList whereClause =>
      infer.toList ++ targetList ++ whereClause.toList
  | .commonTableExpr _ ctequery => [ctequery]
  | .list items => items

end RawNode
end QueryTree
