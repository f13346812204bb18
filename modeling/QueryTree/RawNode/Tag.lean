import QueryTree.RawNode.Basic

/-!
# Kinds of raw nodes
-/

namespace QueryTree

/-- The kind of a node, without what it holds. -/
inductive RawNode.Tag where
  | value
  | paramRef
  | aConst
  | aStar
  | rangeAlias
  | rangeVar
  | groupingFunc
  | subLink
  | caseExpr
  | rowExpr
  | coalesceExpr
  | minMaxExpr
  | xmlExpr
  | nullTest
  | booleanTest
  | joinExpr
  | intoClause
  | insertStmt
  | deleteStmt
  | updateStmt
  | selectStmt
  | aExpr
  | columnRef
  | funcCall
  | namedArgExpr
  | aIndices
  | aIndirection
  | aArrayExpr
  | resTarget
  | multiAssignRef
  | typeCast
  | collateClause
  | sortBy
  | windowDef
  | rangeSubselect
  | rangeFunction
  | rangeTableSample
  | typeName
  | columnDef
  | indexElem
  | groupingSet
  | lockingClause
  | xmlSerialize
  | withClause
  | inferClause
  | onConflictClause
  | commonTableExpr
  | setToDefault
  | currentOfExpr
  | list
deriving DecidableEq, Repr

namespace RawNode.Tag

instance : Named RawNode.Tag where
  members :=
    [.value, .paramRef, .aConst, .aStar, .rangeAlias, .rangeVar, .groupingFunc, .subLink,
     .caseExpr, .rowExpr, .coalesceExpr, .minMaxExpr, .xmlExpr, .nullTest, .booleanTest,
     .joinExpr, .intoClause, .insertStmt, .deleteStmt, .updateStmt, .selectStmt, .aExpr,
     .columnRef, .funcCall, .namedArgExpr, .aIndices, .aIndirection, .aArrayExpr,
     .resTarget, .multiAssignRef, .typeCast, .collateClause, .sortBy, .windowDef,
     .rangeSubselect, .rangeFunction, .rangeTableSample, .typeName, .columnDef,
     .indexElem, .groupingSet, .lockingClause, .xmlSerialize, .withClause, .inferClause,
     .onConflictClause, .commonTableExpr, .setToDefault, .currentOfExpr, .list]
  name
    | .value => "Value"
    | .paramRef => "ParamRef"
    | .aConst => "AConst"
    | .aStar => "AStar"
    | .rangeAlias => "Alias"
    | .rangeVar => "RangeVar"
    | .groupingFunc => "GroupingFunc"
    | .subLink => "SubLink"
    | .caseExpr => "CaseExpr"
    | .rowExpr => "RowExpr"
    | .coalesceExpr => "CoalesceExpr"
    | .minMaxExpr => "MinMaxExpr"
    | .xmlExpr => "XmlExpr"
    | .nullTest => "NullTest"
    | .booleanTest => "BooleanTest"
    | .joinExpr => "JoinExpr"
    | .intoClause => "IntoClause"
    | .insertStmt => "InsertStmt"
    | .deleteStmt => "DeleteStmt"
    | .updateStmt => "UpdateStmt"
    | .selectStmt => "SelectStmt"
    | .aExpr => "AExpr"
    | .columnRef => "ColumnRef"
    | .funcCall => "FuncCall"
    | .namedArgExpr => "NamedArgExpr"
    | .aIndices => "AIndices"
    | .aIndirection => "AIndirection"
    | .aArrayExpr => "AArrayExpr"
    | .resTarget => "ResTarget"
    | .multiAssignRef => "MultiAssignRef"
    | .typeCast => "TypeCast"
    | .collateClause => "CollateClause"
    | .sortBy => "SortBy"
    | .windowDef => "WindowDef"
    | .rangeSubselect => "RangeSubselect"
    | .rangeFunction => "RangeFunction"
    | .rangeTableSample => "RangeTableSample"
    | .typeName => "TypeName"
    | .columnDef => "ColumnDef"
    | .indexElem => "IndexElem"
    | .groupingSet => "GroupingSet"
    | .lockingClause => "LockingClause"
    | .xmlSerialize => "XmlSerialize"
    | .withClause => "WithClause"
    | .inferClause => "InferClause"
    | .onConflictClause => "OnConflictClause"
    | .commonTableExpr => "CommonTableExpr"
    | .setToDefault => "SetToDefault"
    | .currentOfExpr => "CurrentOfExpr"
    | .list => "List"

/-- Every kind, in declaration order. -/
def all : List RawNode.Tag := Named.members

/-- How a kind is written. -/
def name (tag : RawNode.Tag) : String := Named.name tag

end RawNode.Tag

namespace RawNode

def tag : RawNode -> Tag
  | .value .. => .value
  | .paramRef .. => .paramRef
  | .aConst .. => .aConst
  | .aStar .. => .aStar
  | .rangeAlias .. => .rangeAlias
  | .rangeVar .. => .rangeVar
  | .groupingFunc .. => .groupingFunc
  | .subLink .. => .subLink
  | .caseExpr .. => .caseExpr
  | .rowExpr .. => .rowExpr
  | .coalesceExpr .. => .coalesceExpr
  | .minMaxExpr .. => .minMaxExpr
  | .xmlExpr .. => .xmlExpr
  | .nullTest .. => .nullTest
  | .booleanTest .. => .booleanTest
  | .joinExpr .. => .joinExpr
  | .intoClause .. => .intoClause
  | .insertStmt .. => .insertStmt
  | .deleteStmt .. => .deleteStmt
  | .updateStmt .. => .updateStmt
  | .selectStmt .. => .selectStmt
  | .aExpr .. => .aExpr
  | .columnRef .. => .columnRef
  | .funcCall .. => .funcCall
  | .namedArgExpr .. => .namedArgExpr
  | .aIndices .. => .aIndices
  | .aIndirection .. => .aIndirection
  | .aArrayExpr .. => .aArrayExpr
  | .resTarget .. => .resTarget
  | .multiAssignRef .. => .multiAssignRef
  | .typeCast .. => .typeCast
  | .collateClause .. => .collateClause
  | .sortBy .. => .sortBy
  | .windowDef .. => .windowDef
  | .rangeSubselect .. => .rangeSubselect
  | .rangeFunction .. => .rangeFunction
  | .rangeTableSample .. => .rangeTableSample
  | .typeName .. => .typeName
  | .columnDef .. => .columnDef
  | .indexElem .. => .indexElem
  | .groupingSet .. => .groupingSet
  | .lockingClause .. => .lockingClause
  | .xmlSerialize .. => .xmlSerialize
  | .withClause .. => .withClause
  | .inferClause .. => .inferClause
  | .onConflictClause .. => .onConflictClause
  | .commonTableExpr .. => .commonTableExpr
  | .setToDefault .. => .setToDefault
  | .currentOfExpr .. => .currentOfExpr
  | .list .. => .list

end RawNode

end QueryTree
