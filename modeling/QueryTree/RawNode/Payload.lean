import QueryTree.RawNode.Choice
import QueryTree.Node.Payload

/-!
# What a raw node says about itself

The own data of each kind of raw node.  Names are not resolved yet, so they are
kept as lists of words.
-/

namespace QueryTree

/-- A literal as it was written. -/
inductive Value where
  | integer (value : Int64)
  /-- A number with a point or an exponent, or one that is too large, kept as text. -/
  | float (text : String)
  | string (text : String)
  | bitString (text : String)
  | null
deriving DecidableEq, Repr

namespace RawNode

/-- A parameter by its number. -/
structure ParamRef where
  number : Int32
  location : Location
deriving DecidableEq, Repr

/-- A literal. -/
structure AConst where
  val : Value
  location : Location
deriving DecidableEq, Repr

/-- A relation by its name. -/
structure RangeVar where
  catalog : Option String
  schema : Option String
  relname : String
  inh : Bool
  location : Location
deriving DecidableEq, Repr

/-- A sub-select used as an expression. -/
structure SubLink where
  linkType : SubLinkType
  operName : List String
  location : Location
deriving DecidableEq, Repr

/-- A row from its fields. -/
structure RowExpr where
  explicitRow : Bool
  location : Location
deriving DecidableEq, Repr

/-- The greatest or least of several values. -/
structure MinMaxExpr where
  op : MinMaxOp
  location : Location
deriving DecidableEq, Repr

/-- An XML operation. -/
structure XmlExpr where
  op : XmlExprOp
  name : Option String
  xmlOption : XmlOptionType
  location : Location
deriving DecidableEq, Repr

/-- A test for null. -/
structure NullTest where
  test : NullTestType
  location : Location
deriving DecidableEq, Repr

/-- A test for a truth value. -/
structure BooleanTest where
  test : BoolTestType
  location : Location
deriving DecidableEq, Repr

/-- A join. -/
structure JoinExpr where
  joinType : JoinType
  isNatural : Bool
  usingColumns : List String
deriving DecidableEq, Repr

/-- Where a query puts its rows. -/
structure IntoClause where
  colNames : List String
  skipData : Bool
deriving DecidableEq, Repr

/-- A `SELECT`, or two of them combined. -/
structure SelectStmt where
  op : Option SetOperation
  all : Bool
deriving DecidableEq, Repr

/-- An operator or a construct like one. -/
structure AExpr where
  kind : AExprKind
  name : List String
  location : Location
deriving DecidableEq, Repr

/-- A function call. -/
structure FuncCall where
  funcname : List String
  aggWithinGroup : Bool
  aggStar : Bool
  aggDistinct : Bool
  funcVariadic : Bool
  location : Location
deriving DecidableEq, Repr

/-- An argument passed by name. -/
structure NamedArgExpr where
  name : String
  location : Location
deriving DecidableEq, Repr

/-- An output column or an assignment. -/
structure ResTarget where
  name : Option String
  location : Location
deriving DecidableEq, Repr

/-- One column of an assignment from a row. -/
structure MultiAssignRef where
  colno : Int32
  ncolumns : Int32
deriving DecidableEq, Repr

/-- An explicit collation. -/
structure CollateClause where
  collname : List String
  location : Location
deriving DecidableEq, Repr

/-- One sort key. -/
structure SortBy where
  dir : SortByDir
  nulls : SortByNulls
  useOp : List String
  location : Location
deriving DecidableEq, Repr

/-- A window definition. -/
structure WindowDef where
  name : Option String
  refname : Option String
  frameOptions : Int32
  location : Location
deriving DecidableEq, Repr

/-- Functions in `FROM`. -/
structure RangeFunction where
  lateral : Bool
  ordinality : Bool
  isRowsfrom : Bool
deriving DecidableEq, Repr

/-- A sample of a relation. -/
structure RangeTableSample where
  method : List String
  location : Location
deriving DecidableEq, Repr

/-- A type by its name. -/
structure TypeName where
  names : List String
  setof : Bool
  pctType : Bool
  location : Location
deriving DecidableEq, Repr

/-- A column definition. -/
structure ColumnDef where
  colname : String
  isNotNull : Bool
  location : Location
deriving DecidableEq, Repr

/-- What a conflict index is inferred from. -/
structure IndexElem where
  name : Option String
  indexcolname : Option String
  collation : List String
  opclass : List String
  ordering : SortByDir
  nullsOrdering : SortByNulls
deriving DecidableEq, Repr

/-- A grouping set. -/
structure GroupingSet where
  kind : GroupingSetKind
  location : Location
deriving DecidableEq, Repr

/-- A row lock. -/
structure LockingClause where
  strength : LockClauseStrength
  waitPolicy : LockWaitPolicy
deriving DecidableEq, Repr

/-- XML turned into text. -/
structure XmlSerialize where
  xmlOption : XmlOptionType
  location : Location
deriving DecidableEq, Repr

/-- A `WITH` list. -/
structure WithClause where
  recursive : Bool
  location : Location
deriving DecidableEq, Repr

/-- How a conflict index is chosen. -/
structure InferClause where
  conname : Option String
  location : Location
deriving DecidableEq, Repr

/-- What an insertion does about conflicts. -/
structure OnConflictClause where
  action : OnConflictAction
  location : Location
deriving DecidableEq, Repr

/-- One query of a `WITH` list. -/
structure CommonTableExpr where
  name : String
  aliascolnames : List String
  location : Location
deriving DecidableEq, Repr

end RawNode

end QueryTree
