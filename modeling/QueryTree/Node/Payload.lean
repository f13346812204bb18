import QueryTree.Node.Choice
import QueryTree.Node.Datum

/-!
# What a node says about itself

The own data of each kind of node: everything but the nodes below it.
-/

namespace QueryTree

/-- The name of a relation and of its columns. -/
structure Alias where
  name : String
  colnames : List String
deriving DecidableEq, Repr

/-!
# Expressions and clauses
-/

/-- A column of a range-table entry. -/
structure Var where
  /-- Which range-table entry, counted from one. -/
  rtindex : UInt32
  /-- Which column, zero for the whole row. -/
  attno : Int16
  typeOid : Oid
  typmod : Int32
  collation : Oid
  /-- How many queries further out the entry is. -/
  levelsUp : UInt32
  location : Location
deriving DecidableEq, Repr

/-- A constant. -/
structure Const where
  typeOid : Oid
  typmod : Int32
  collation : Oid
  /-- How many bytes a value of the type takes, negative when that varies. -/
  len : Int32
  byVal : Bool
  value : Datum
  location : Location

/-- A parameter of the statement. -/
structure Param where
  kind : ParamKind
  id : Int32
  typeOid : Oid
  typmod : Int32
  collation : Oid
  location : Location
deriving DecidableEq, Repr

/-- The call of an aggregate. -/
structure Aggref where
  funcOid : Oid
  resultType : Oid
  collation : Oid
  inputCollation : Oid
  star : Bool
  variadic : Bool
  kind : AggKind
  levelsUp : UInt32
  location : Location
deriving DecidableEq, Repr

/-- The `GROUPING` function. -/
structure GroupingFunc where
  refs : List UInt32
  cols : List Int32
  /-- How many queries further out the grouping is. -/
  levelsUp : UInt32
  location : Location
deriving DecidableEq, Repr

/-- The call of a window function. -/
structure WindowFunc where
  funcOid : Oid
  resultType : Oid
  collation : Oid
  inputCollation : Oid
  winref : UInt32
  star : Bool
  isAgg : Bool
  location : Location
deriving DecidableEq, Repr

/-- An element or a slice of an array, or an assignment to one. -/
structure ArrayRef where
  arrayType : Oid
  elementType : Oid
  typmod : Int32
  collation : Oid
deriving DecidableEq, Repr

/-- The call of a function. -/
structure FuncExpr where
  funcOid : Oid
  resultType : Oid
  returnsSet : Bool
  variadic : Bool
  format : CoercionForm
  collation : Oid
  inputCollation : Oid
  location : Location
deriving DecidableEq, Repr

/-- An argument passed by name. -/
structure NamedArgExpr where
  name : String
  argNumber : Int32
  location : Location
deriving DecidableEq, Repr

/-- The application of an operator. -/
structure OpExpr where
  opOid : Oid
  funcOid : Oid
  resultType : Oid
  returnsSet : Bool
  collation : Oid
  inputCollation : Oid
  location : Location
deriving DecidableEq, Repr

/-- An operator applied between a scalar and the elements of an array. -/
structure ScalarArrayOpExpr where
  opOid : Oid
  funcOid : Oid
  useOr : Bool
  inputCollation : Oid
  location : Location
deriving DecidableEq, Repr

/-- A boolean connective. -/
structure BoolExpr where
  op : BoolExprType
  location : Location
deriving DecidableEq, Repr

/-- A sub-select used as an expression. -/
structure SubLink where
  linkType : SubLinkType
  linkId : Int32
  operName : List String
  location : Location
deriving DecidableEq, Repr

/-- One field of a row. -/
structure FieldSelect where
  fieldNumber : Int16
  resultType : Oid
  typmod : Int32
  collation : Oid
deriving DecidableEq, Repr

/-- A row with some fields replaced. -/
structure FieldStore where
  fieldNumbers : List Int16
  resultType : Oid
deriving DecidableEq, Repr

/-- A change of type that changes no bits. -/
structure RelabelType where
  resultType : Oid
  typmod : Int32
  collation : Oid
  format : CoercionForm
  location : Location
deriving DecidableEq, Repr

/-- A coercion through the text form of a value. -/
structure CoerceViaInOut where
  resultType : Oid
  collation : Oid
  format : CoercionForm
  location : Location
deriving DecidableEq, Repr

/-- A coercion of every element of an array. -/
structure ArrayCoerceExpr where
  elemFuncOid : Oid
  resultType : Oid
  typmod : Int32
  collation : Oid
  isExplicit : Bool
  format : CoercionForm
  location : Location
deriving DecidableEq, Repr

/-- A row turned into a row of another type. -/
structure ConvertRowtypeExpr where
  resultType : Oid
  format : CoercionForm
  location : Location
deriving DecidableEq, Repr

/-- An explicit collation. -/
structure CollateExpr where
  collation : Oid
  location : Location
deriving DecidableEq, Repr

/-- A `CASE` expression. -/
structure CaseExpr where
  caseType : Oid
  collation : Oid
  location : Location
deriving DecidableEq, Repr

/-- The value that a `CASE` expression tests. -/
structure CaseTestExpr where
  typeOid : Oid
  typmod : Int32
  collation : Oid
deriving DecidableEq, Repr

/-- An array from its elements. -/
structure ArrayExpr where
  arrayType : Oid
  collation : Oid
  elementType : Oid
  multidims : Bool
  location : Location
deriving DecidableEq, Repr

/-- A row from its fields. -/
structure RowExpr where
  rowType : Oid
  format : CoercionForm
  colnames : List String
  location : Location
deriving DecidableEq, Repr

/-- A comparison of two rows. -/
structure RowCompareExpr where
  compare : RowCompareType
  opOids : List Oid
  opFamilies : List Oid
  inputCollations : List Oid
deriving DecidableEq, Repr

/-- The first of several values that is not null. -/
structure CoalesceExpr where
  coalesceType : Oid
  collation : Oid
  location : Location
deriving DecidableEq, Repr

/-- The greatest or least of several values. -/
structure MinMaxExpr where
  minmaxType : Oid
  collation : Oid
  inputCollation : Oid
  op : MinMaxOp
  location : Location
deriving DecidableEq, Repr

/-- An XML operation. -/
structure XmlExpr where
  op : XmlExprOp
  name : Option String
  argNames : List String
  xmlOption : XmlOptionType
  typeOid : Oid
  typmod : Int32
  location : Location
deriving DecidableEq, Repr

/-- A test for null. -/
structure NullTest where
  test : NullTestType
  argIsRow : Bool
  location : Location
deriving DecidableEq, Repr

/-- A test for a truth value. -/
structure BooleanTest where
  test : BoolTestType
  location : Location
deriving DecidableEq, Repr

/-- A coercion to a domain, with its checks. -/
structure CoerceToDomain where
  resultType : Oid
  typmod : Int32
  collation : Oid
  format : CoercionForm
  location : Location
deriving DecidableEq, Repr

/-- The value that a domain check is about. -/
structure CoerceToDomainValue where
  typeOid : Oid
  typmod : Int32
  collation : Oid
  location : Location
deriving DecidableEq, Repr

/-- The `DEFAULT` of a column. -/
structure SetToDefault where
  typeOid : Oid
  typmod : Int32
  collation : Oid
  location : Location
deriving DecidableEq, Repr

/-- The row under a cursor. -/
structure CurrentOfExpr where
  rtindex : UInt32
  cursorName : Option String
  cursorParam : Int32
deriving DecidableEq, Repr

/-- What an insertion infers its conflict index from. -/
structure InferenceElem where
  collation : Oid
  opclass : Oid
deriving DecidableEq, Repr

/-- One output column. -/
structure TargetEntry where
  /-- Which column it is, counted from one. -/
  resno : Int16
  name : Option String
  sortGroupRef : UInt32
  origTable : Oid
  origColumn : Int16
  /-- Set for a column that is not part of the output. -/
  junk : Bool
deriving DecidableEq, Repr

/-- A join in the join tree. -/
structure JoinExpr where
  joinType : JoinType
  isNatural : Bool
  usingColumns : List String
  correlation : Option Alias
  /-- The entry of the join itself, zero for none. -/
  rtindex : UInt32
deriving DecidableEq, Repr

/-- What an insertion does about conflicts. -/
structure OnConflictExpr where
  action : OnConflictAction
  constraint : Oid
  excludedRtindex : UInt32
deriving DecidableEq, Repr

/-- Two queries combined. -/
structure SetOperationStmt where
  op : SetOperation
  all : Bool
  colTypes : List Oid
  colTypmods : List Int32
  colCollations : List Oid
deriving DecidableEq, Repr

/-- One key of a sort, a grouping or a `DISTINCT`. -/
structure SortGroupClause where
  tleSortGroupRef : UInt32
  eqOp : Oid
  sortOp : Oid
  nullsFirst : Bool
  hashable : Bool
deriving DecidableEq, Repr

/-- A window definition. -/
structure WindowClause where
  name : Option String
  refName : Option String
  frameOptions : Int32
  winref : UInt32
  copiedOrder : Bool
deriving DecidableEq, Repr

/-- A check on written rows. -/
structure WithCheckOption where
  kind : WcoKind
  relname : String
  polname : Option String
  cascaded : Bool
deriving DecidableEq, Repr

/-- One query of a `WITH` list. -/
structure CommonTableExpr where
  name : String
  aliasColnames : List String
  location : Location
  recursive : Bool
  refcount : Int32
  colnames : List String
  coltypes : List Oid
  coltypmods : List Int32
  colcollations : List Oid
deriving DecidableEq, Repr

/-- One function in `FROM`. -/
structure RangeTblFunction where
  colCount : Int32
  colnames : List String
  coltypes : List Oid
  coltypmods : List Int32
  colcollations : List Oid
deriving DecidableEq, Repr

/-!
# Queries
-/

/-- What a query says about itself, apart from its clauses. -/
structure QueryHeader where
  commandType : CmdType
  canSetTag : Bool
  resultRelation : UInt32
  hasAggs : Bool
  hasWindowFuncs : Bool
  hasSubLinks : Bool
  hasDistinctOn : Bool
  hasRecursive : Bool
  hasModifyingCte : Bool
  hasForUpdate : Bool
deriving DecidableEq, Repr

/-- The names and marks of a range-table entry. -/
structure EntryHeader where
  correlation : Option Alias
  /-- The names in effect. -/
  eref : Alias
  lateral : Bool
  inh : Bool
  inFromClause : Bool
deriving DecidableEq, Repr

/-- A reference to a query of a `WITH` list. -/
structure CteReference where
  name : String
  levelsUp : UInt32
  selfReference : Bool
  coltypes : List Oid
  coltypmods : List Int32
  colcollations : List Oid
deriving DecidableEq, Repr

end QueryTree
