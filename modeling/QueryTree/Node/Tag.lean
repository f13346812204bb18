import QueryTree.Node.Basic

/-!
# Kinds of nodes
-/

namespace QueryTree

/-- The kind of a node, without what it holds. -/
inductive Node.Tag where
  | var
  | const
  | param
  | aggref
  | groupingFunc
  | windowFunc
  | arrayRef
  | funcExpr
  | namedArgExpr
  | opExpr
  | distinctExpr
  | nullIfExpr
  | scalarArrayOpExpr
  | boolExpr
  | subLink
  | fieldSelect
  | fieldStore
  | relabelType
  | coerceViaInOut
  | arrayCoerceExpr
  | convertRowtypeExpr
  | collateExpr
  | caseExpr
  | caseTestExpr
  | arrayExpr
  | rowExpr
  | rowCompareExpr
  | coalesceExpr
  | minMaxExpr
  | xmlExpr
  | nullTest
  | booleanTest
  | coerceToDomain
  | coerceToDomainValue
  | setToDefault
  | currentOfExpr
  | inferenceElem
  | targetEntry
  | rangeTblRef
  | joinExpr
  | fromExpr
  | onConflictExpr
  | setOperationStmt
  | sortGroupClause
  | windowClause
  | withCheckOption
  | commonTableExpr
  | rangeTblFunction
  | tableSampleClause
  | query
  | rangeTblEntry
  | list
deriving DecidableEq, Repr

namespace Node.Tag

instance : Named Node.Tag where
  members :=
    [.var, .const, .param, .aggref, .groupingFunc, .windowFunc, .arrayRef, .funcExpr,
     .namedArgExpr, .opExpr, .distinctExpr, .nullIfExpr, .scalarArrayOpExpr, .boolExpr,
     .subLink, .fieldSelect, .fieldStore, .relabelType, .coerceViaInOut, .arrayCoerceExpr,
     .convertRowtypeExpr, .collateExpr, .caseExpr, .caseTestExpr, .arrayExpr, .rowExpr,
     .rowCompareExpr, .coalesceExpr, .minMaxExpr, .xmlExpr, .nullTest, .booleanTest,
     .coerceToDomain, .coerceToDomainValue, .setToDefault, .currentOfExpr, .inferenceElem,
     .targetEntry, .rangeTblRef, .joinExpr, .fromExpr, .onConflictExpr, .setOperationStmt,
     .sortGroupClause, .windowClause, .withCheckOption, .commonTableExpr,
     .rangeTblFunction, .tableSampleClause, .query, .rangeTblEntry, .list]
  name
    | .var => "Var"
    | .const => "Const"
    | .param => "Param"
    | .aggref => "Aggref"
    | .groupingFunc => "GroupingFunc"
    | .windowFunc => "WindowFunc"
    | .arrayRef => "ArrayRef"
    | .funcExpr => "FuncExpr"
    | .namedArgExpr => "NamedArgExpr"
    | .opExpr => "OpExpr"
    | .distinctExpr => "DistinctExpr"
    | .nullIfExpr => "NullIfExpr"
    | .scalarArrayOpExpr => "ScalarArrayOpExpr"
    | .boolExpr => "BoolExpr"
    | .subLink => "SubLink"
    | .fieldSelect => "FieldSelect"
    | .fieldStore => "FieldStore"
    | .relabelType => "RelabelType"
    | .coerceViaInOut => "CoerceViaIO"
    | .arrayCoerceExpr => "ArrayCoerceExpr"
    | .convertRowtypeExpr => "ConvertRowtypeExpr"
    | .collateExpr => "CollateExpr"
    | .caseExpr => "CaseExpr"
    | .caseTestExpr => "CaseTestExpr"
    | .arrayExpr => "ArrayExpr"
    | .rowExpr => "RowExpr"
    | .rowCompareExpr => "RowCompareExpr"
    | .coalesceExpr => "CoalesceExpr"
    | .minMaxExpr => "MinMaxExpr"
    | .xmlExpr => "XmlExpr"
    | .nullTest => "NullTest"
    | .booleanTest => "BooleanTest"
    | .coerceToDomain => "CoerceToDomain"
    | .coerceToDomainValue => "CoerceToDomainValue"
    | .setToDefault => "SetToDefault"
    | .currentOfExpr => "CurrentOfExpr"
    | .inferenceElem => "InferenceElem"
    | .targetEntry => "TargetEntry"
    | .rangeTblRef => "RangeTblRef"
    | .joinExpr => "JoinExpr"
    | .fromExpr => "FromExpr"
    | .onConflictExpr => "OnConflictExpr"
    | .setOperationStmt => "SetOperationStmt"
    | .sortGroupClause => "SortGroupClause"
    | .windowClause => "WindowClause"
    | .withCheckOption => "WithCheckOption"
    | .commonTableExpr => "CommonTableExpr"
    | .rangeTblFunction => "RangeTblFunction"
    | .tableSampleClause => "TableSampleClause"
    | .query => "Query"
    | .rangeTblEntry => "RangeTblEntry"
    | .list => "List"

/-- Every kind, in declaration order. -/
def all : List Node.Tag := Named.members

/-- How a kind is written. -/
def name (tag : Node.Tag) : String := Named.name tag

/-- Whether nodes of a kind produce a value, and so have a type, a type modifier
and a collation.  The other kinds are clauses, queries and lists. -/
def isExpr : Node.Tag -> Bool
  | .targetEntry | .rangeTblRef | .joinExpr | .fromExpr | .onConflictExpr
  | .setOperationStmt | .sortGroupClause | .windowClause | .withCheckOption
  | .commonTableExpr | .rangeTblFunction | .tableSampleClause | .query | .rangeTblEntry
  | .list => false
  | _ => true

end Node.Tag

namespace Node

def tag : Node -> Tag
  | .var .. => .var
  | .const .. => .const
  | .param .. => .param
  | .aggref .. => .aggref
  | .groupingFunc .. => .groupingFunc
  | .windowFunc .. => .windowFunc
  | .arrayRef .. => .arrayRef
  | .funcExpr .. => .funcExpr
  | .namedArgExpr .. => .namedArgExpr
  | .opExpr .. => .opExpr
  | .distinctExpr .. => .distinctExpr
  | .nullIfExpr .. => .nullIfExpr
  | .scalarArrayOpExpr .. => .scalarArrayOpExpr
  | .boolExpr .. => .boolExpr
  | .subLink .. => .subLink
  | .fieldSelect .. => .fieldSelect
  | .fieldStore .. => .fieldStore
  | .relabelType .. => .relabelType
  | .coerceViaInOut .. => .coerceViaInOut
  | .arrayCoerceExpr .. => .arrayCoerceExpr
  | .convertRowtypeExpr .. => .convertRowtypeExpr
  | .collateExpr .. => .collateExpr
  | .caseExpr .. => .caseExpr
  | .caseTestExpr .. => .caseTestExpr
  | .arrayExpr .. => .arrayExpr
  | .rowExpr .. => .rowExpr
  | .rowCompareExpr .. => .rowCompareExpr
  | .coalesceExpr .. => .coalesceExpr
  | .minMaxExpr .. => .minMaxExpr
  | .xmlExpr .. => .xmlExpr
  | .nullTest .. => .nullTest
  | .booleanTest .. => .booleanTest
  | .coerceToDomain .. => .coerceToDomain
  | .coerceToDomainValue .. => .coerceToDomainValue
  | .setToDefault .. => .setToDefault
  | .currentOfExpr .. => .currentOfExpr
  | .inferenceElem .. => .inferenceElem
  | .targetEntry .. => .targetEntry
  | .rangeTblRef .. => .rangeTblRef
  | .joinExpr .. => .joinExpr
  | .fromExpr .. => .fromExpr
  | .onConflictExpr .. => .onConflictExpr
  | .setOperationStmt .. => .setOperationStmt
  | .sortGroupClause .. => .sortGroupClause
  | .windowClause .. => .windowClause
  | .withCheckOption .. => .withCheckOption
  | .commonTableExpr .. => .commonTableExpr
  | .rangeTblFunction .. => .rangeTblFunction
  | .tableSampleClause .. => .tableSampleClause
  | .query .. => .query
  | .rangeTblEntry .. => .rangeTblEntry
  | .list .. => .list

/-- Whether a node produces a value. -/
def isExpr (node : Node) : Bool :=
  node.tag.isExpr

end Node

end QueryTree
