import QueryTree.RawNode.Payload

/-!
# Raw trees

A raw tree is what the grammar of the language produces, before names and types
are resolved.  Like an analyzed node, a raw node is its own data together with
the nodes below it.
-/

namespace QueryTree

mutual

/-- A node of a raw tree. -/
inductive RawNode where
  | value (value : Value)
  | paramRef (data : RawNode.ParamRef)
  | aConst (data : RawNode.AConst)
  | aStar
  | rangeAlias (data : Alias)
  | rangeVar (data : RawNode.RangeVar) (correlation : Option RawNode)
  | groupingFunc (location : Location) (args : List RawNode)
  | subLink (data : RawNode.SubLink) (testExpr : Option RawNode) (subselect : RawNode)
  | caseExpr (location : Location) (arg : Option RawNode) (whens : List RawNode.CaseWhen)
      (otherwise : Option RawNode)
  | rowExpr (data : RawNode.RowExpr) (args : List RawNode)
  | coalesceExpr (location : Location) (args : List RawNode)
  | minMaxExpr (data : RawNode.MinMaxExpr) (args : List RawNode)
  | xmlExpr (data : RawNode.XmlExpr) (namedArgs args : List RawNode)
  | nullTest (data : RawNode.NullTest) (arg : RawNode)
  | booleanTest (data : RawNode.BooleanTest) (arg : RawNode)
  | joinExpr (data : RawNode.JoinExpr) (larg rarg : RawNode)
      (quals correlation : Option RawNode)
  | intoClause (data : RawNode.IntoClause) (rel : RawNode) (viewQuery : Option RawNode)
  | insertStmt (relation : RawNode) (cols : List RawNode)
      (select onConflict : Option RawNode) (returningList : List RawNode)
      (withList : Option RawNode)
  | deleteStmt (relation : RawNode) (usingClause : List RawNode)
      (whereClause : Option RawNode) (returningList : List RawNode)
      (withList : Option RawNode)
  | updateStmt (relation : RawNode) (targetList : List RawNode)
      (whereClause : Option RawNode) (fromClause returningList : List RawNode)
      (withList : Option RawNode)
  | selectStmt (data : RawNode.SelectStmt) (distinctClause : List RawNode)
      (into : Option RawNode) (targetList fromClause : List RawNode)
      (whereClause : Option RawNode) (groupClause : List RawNode)
      (havingClause : Option RawNode) (windowClause valuesLists sortClause : List RawNode)
      (limitOffset limitCount : Option RawNode) (locking : List RawNode)
      (withList larg rarg : Option RawNode)
  | aExpr (data : RawNode.AExpr) (lexpr rexpr : Option RawNode)
  | columnRef (location : Location) (fields : List RawNode)
  | funcCall (data : RawNode.FuncCall) (args aggOrder : List RawNode)
      (aggFilter window : Option RawNode)
  | namedArgExpr (data : RawNode.NamedArgExpr) (arg : RawNode)
  | aIndices (lidx uidx : Option RawNode)
  | aIndirection (arg : RawNode) (indirection : List RawNode)
  | aArrayExpr (location : Location) (elements : List RawNode)
  | resTarget (data : RawNode.ResTarget) (indirection : List RawNode)
      (val : Option RawNode)
  | multiAssignRef (data : RawNode.MultiAssignRef) (source : RawNode)
  | typeCast (location : Location) (arg type : RawNode)
  | collateClause (data : RawNode.CollateClause) (arg : Option RawNode)
  | sortBy (data : RawNode.SortBy) (node : RawNode)
  | windowDef (data : RawNode.WindowDef) (partitionClause orderClause : List RawNode)
      (startOffset endOffset : Option RawNode)
  | rangeSubselect (lateral : Bool) (subquery : RawNode) (correlation : Option RawNode)
  | rangeFunction (data : RawNode.RangeFunction) (functions : List RawNode)
      (correlation : Option RawNode) (coldeflist : List RawNode)
  | rangeTableSample (data : RawNode.RangeTableSample) (relation : RawNode)
      (args : List RawNode) (repeatable : Option RawNode)
  | typeName (data : RawNode.TypeName) (typmods arrayBounds : List RawNode)
  | columnDef (data : RawNode.ColumnDef) (type rawDefault collClause : Option RawNode)
  | indexElem (data : RawNode.IndexElem) (expr : Option RawNode)
  | groupingSet (data : RawNode.GroupingSet) (content : List RawNode)
  | lockingClause (data : RawNode.LockingClause) (lockedRels : List RawNode)
  | xmlSerialize (data : RawNode.XmlSerialize) (expr type : RawNode)
  | withClause (data : RawNode.WithClause) (ctes : List RawNode)
  | inferClause (data : RawNode.InferClause) (indexElems : List RawNode)
      (whereClause : Option RawNode)
  | onConflictClause (data : RawNode.OnConflictClause) (infer : Option RawNode)
      (targetList : List RawNode) (whereClause : Option RawNode)
  | commonTableExpr (data : RawNode.CommonTableExpr) (ctequery : RawNode)
  | setToDefault (data : SetToDefault)
  | currentOfExpr (data : CurrentOfExpr)
  | list (items : List RawNode)

/-- One `WHEN` of a `CASE` expression. -/
structure RawNode.CaseWhen where
  expr : RawNode
  result : RawNode
  location : Location

end

end QueryTree
