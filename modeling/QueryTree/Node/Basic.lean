import QueryTree.Node.Payload

/-!
# Analyzed trees

A node is its own data together with the nodes below it, slot by slot: some
slots hold exactly one node, some may be empty, some hold a list.  Expressions,
queries and the clauses of queries are all nodes.
-/

namespace QueryTree

mutual

/-- A node of an analyzed tree. -/
inductive Node where
  | var (data : Var)
  | const (data : Const)
  | param (data : Param)
  | aggref (data : Aggref) (directArgs args order distinct : List Node)
      (filter : Option Node)
  | groupingFunc (data : GroupingFunc) (args : List Node)
  | windowFunc (data : WindowFunc) (args : List Node) (filter : Option Node)
  | arrayRef (data : ArrayRef) (upperIndex lowerIndex : List Node) (expr : Node)
      (assignExpr : Option Node)
  | funcExpr (data : FuncExpr) (args : List Node)
  | namedArgExpr (data : NamedArgExpr) (arg : Node)
  | opExpr (data : OpExpr) (args : List Node)
  | distinctExpr (data : OpExpr) (args : List Node)
  | nullIfExpr (data : OpExpr) (args : List Node)
  | scalarArrayOpExpr (data : ScalarArrayOpExpr) (args : List Node)
  | boolExpr (data : BoolExpr) (args : List Node)
  | subLink (data : SubLink) (testExpr : Option Node) (subselect : Node)
  | fieldSelect (data : FieldSelect) (arg : Node)
  | fieldStore (data : FieldStore) (arg : Node) (newValues : List Node)
  | relabelType (data : RelabelType) (arg : Node)
  | coerceViaInOut (data : CoerceViaInOut) (arg : Node)
  | arrayCoerceExpr (data : ArrayCoerceExpr) (arg : Node)
  | convertRowtypeExpr (data : ConvertRowtypeExpr) (arg : Node)
  | collateExpr (data : CollateExpr) (arg : Node)
  | caseExpr (data : CaseExpr) (arg : Option Node) (whens : List CaseWhen)
      (otherwise : Option Node)
  | caseTestExpr (data : CaseTestExpr)
  | arrayExpr (data : ArrayExpr) (elements : List Node)
  | rowExpr (data : RowExpr) (args : List Node)
  | rowCompareExpr (data : RowCompareExpr) (leftArgs rightArgs : List Node)
  | coalesceExpr (data : CoalesceExpr) (args : List Node)
  | minMaxExpr (data : MinMaxExpr) (args : List Node)
  | xmlExpr (data : XmlExpr) (namedArgs args : List Node)
  | nullTest (data : NullTest) (arg : Node)
  | booleanTest (data : BooleanTest) (arg : Node)
  | coerceToDomain (data : CoerceToDomain) (arg : Node)
  | coerceToDomainValue (data : CoerceToDomainValue)
  | setToDefault (data : SetToDefault)
  | currentOfExpr (data : CurrentOfExpr)
  | inferenceElem (data : InferenceElem) (expr : Node)
  | targetEntry (data : TargetEntry) (expr : Node)
  | rangeTblRef (rtindex : UInt32)
  | joinExpr (data : JoinExpr) (left right : Node) (quals : Option Node)
  | fromExpr (fromList : List Node) (quals : Option Node)
  | onConflictExpr (data : OnConflictExpr) (arbiterElems : List Node)
      (arbiterWhere : Option Node) (setList : List Node) (whereClause : Option Node)
      (excludedTlist : List Node)
  | setOperationStmt (data : SetOperationStmt) (left right : Node)
      (groupClauses : List Node)
  | sortGroupClause (data : SortGroupClause)
  | windowClause (data : WindowClause) (partitionClause orderClause : List Node)
      (startOffset endOffset : Option Node)
  | withCheckOption (data : WithCheckOption) (qual : Node)
  | commonTableExpr (data : CommonTableExpr) (body : Node)
  | rangeTblFunction (data : RangeTblFunction) (call : Node)
  | tableSampleClause (handler : Oid) (args : List Node) (repeatable : Option Node)
  | query (query : Query)
  | rangeTblEntry (entry : RangeTblEntry)
  | list (items : List Node)

/-- One `WHEN` of a `CASE` expression. -/
structure CaseWhen where
  expr : Node
  result : Node
  location : Location

/-- An analyzed statement.  Its range table holds range-table entries, its `WITH`
list common table expressions. -/
structure Query where
  header : QueryHeader
  cteList : List Node
  rtable : List Node
  jointree : Option Node
  targetList : List Node
  withCheckOptions : List Node
  onConflict : Option Node
  returningList : List Node
  groupClause : List Node
  havingQual : Option Node
  windowClause : List Node
  distinctClause : List Node
  sortClause : List Node
  limitOffset : Option Node
  limitCount : Option Node
  setOperations : Option Node

/-- One entry of a range table. -/
structure RangeTblEntry where
  kind : RteKind
  header : EntryHeader
  /-- Conditions that hold before any of the query's own. -/
  securityQuals : List Node

/-- What a range-table entry refers to. -/
inductive RteKind where
  /-- A table. -/
  | relation (relId : Oid) (relKind : Char) (tablesample : Option Node)
  /-- A query in `FROM`. -/
  | subquery (subquery : Node) (securityBarrier : Bool)
  /-- A join: its columns are those of the joined entries. -/
  | join (joinType : JoinType) (aliasVars : List Node)
  /-- Functions in `FROM`. -/
  | function (functions : List Node) (ordinality : Bool)
  /-- A list of rows, each one a list node. -/
  | values (rows : List Node) (collations : List Oid)
  /-- A query of a `WITH` list. -/
  | cte (reference : CteReference)

end

/-!
# Views of a node
-/

namespace Node

def isQuery : Node -> Bool
  | .query _ => true
  | _ => false

def query? : Node -> Option Query
  | .query q => some q
  | _ => none

def items? : Node -> Option (List Node)
  | .list items => some items
  | _ => none

/-- The data and the expression of an output column. -/
def targetEntry? : Node -> Option (TargetEntry × Node)
  | .targetEntry data expr => some (data, expr)
  | _ => none

end Node

namespace RteKind

/-- The word for a kind of range-table entry. -/
def word : RteKind -> String
  | .relation .. => "relation"
  | .subquery .. => "subquery"
  | .join .. => "join"
  | .function .. => "function"
  | .values .. => "values"
  | .cte .. => "cte"

end RteKind

namespace RangeTblEntry

/-- The query of a subquery entry. -/
def subquery? (entry : RangeTblEntry) : Option Query :=
  match entry.kind with
  | .subquery subquery _ => subquery.query?
  | _ => none

end RangeTblEntry

end QueryTree
