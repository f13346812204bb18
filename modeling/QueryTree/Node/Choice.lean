import QueryTree.Named

/-!
# Choices in a tree

The enumerations that the nodes of a tree are marked with.
-/

namespace QueryTree

/-- How a function call or coercion was written; an implicit cast was not written at
all, but put in by analysis. -/
inductive CoercionForm where
  | explicitCall
  | explicitCast
  | implicitCast
deriving DecidableEq, Repr

instance : Named CoercionForm where
  members := [.explicitCall, .explicitCast, .implicitCast]
  name
    | .explicitCall => "ExplicitCall"
    | .explicitCast => "ExplicitCast"
    | .implicitCast => "ImplicitCast"

/-- Where the value of a parameter comes from. -/
inductive ParamKind where
  | external
  | exec
  | sublink
  | multiexpr
deriving DecidableEq, Repr

instance : Named ParamKind where
  members := [.external, .exec, .sublink, .multiexpr]
  name
    | .external => "Extern"
    | .exec => "Exec"
    | .sublink => "Sublink"
    | .multiexpr => "Multiexpr"

/-- The kinds of aggregate. -/
inductive AggKind where
  | normal
  | orderedSet
  | hypothetical
deriving DecidableEq, Repr

instance : Named AggKind where
  members := [.normal, .orderedSet, .hypothetical]
  name
    | .normal => "Normal"
    | .orderedSet => "OrderedSet"
    | .hypothetical => "Hypothetical"

/-- The boolean connectives. -/
inductive BoolExprType where
  | and
  | or
  | not
deriving DecidableEq, Repr

instance : Named BoolExprType where
  members := [.and, .or, .not]
  name
    | .and => "And"
    | .or => "Or"
    | .not => "Not"

/-- What a sub-select is used for in an expression. -/
inductive SubLinkType where
  | existsLink
  | allLink
  | anyLink
  | rowCompare
  | expr
  | multiExpr
  | array
  | cte
deriving DecidableEq, Repr

instance : Named SubLinkType where
  members :=
    [.existsLink, .allLink, .anyLink, .rowCompare, .expr, .multiExpr, .array, .cte]
  name
    | .existsLink => "Exists"
    | .allLink => "All"
    | .anyLink => "Any"
    | .rowCompare => "RowCompare"
    | .expr => "Expr"
    | .multiExpr => "MultiExpr"
    | .array => "Array"
    | .cte => "Cte"

/-- The comparison that a row comparison makes. -/
inductive RowCompareType where
  | lt
  | le
  | eq
  | ge
  | gt
  | ne
deriving DecidableEq, Repr

instance : Named RowCompareType where
  members := [.lt, .le, .eq, .ge, .gt, .ne]
  name
    | .lt => "Lt"
    | .le => "Le"
    | .eq => "Eq"
    | .ge => "Ge"
    | .gt => "Gt"
    | .ne => "Ne"

/-- Which extreme a min-max expression picks. -/
inductive MinMaxOp where
  | greatest
  | least
deriving DecidableEq, Repr

instance : Named MinMaxOp where
  members := [.greatest, .least]
  name
    | .greatest => "Greatest"
    | .least => "Least"

/-- The operations of an XML expression. -/
inductive XmlExprOp where
  | concat
  | element
  | forest
  | parse
  | pi
  | root
  | serialize
  | isDocument
deriving DecidableEq, Repr

instance : Named XmlExprOp where
  members := [.concat, .element, .forest, .parse, .pi, .root, .serialize, .isDocument]
  name
    | .concat => "Concat"
    | .element => "Element"
    | .forest => "Forest"
    | .parse => "Parse"
    | .pi => "Pi"
    | .root => "Root"
    | .serialize => "Serialize"
    | .isDocument => "IsDocument"

/-- What XML text is taken for. -/
inductive XmlOptionType where
  | document
  | content
deriving DecidableEq, Repr

instance : Named XmlOptionType where
  members := [.document, .content]
  name
    | .document => "Document"
    | .content => "Content"

/-- The tests for null. -/
inductive NullTestType where
  | isNull
  | isNotNull
deriving DecidableEq, Repr

instance : Named NullTestType where
  members := [.isNull, .isNotNull]
  name
    | .isNull => "IsNull"
    | .isNotNull => "IsNotNull"

/-- The tests for a truth value. -/
inductive BoolTestType where
  | isTrue
  | isNotTrue
  | isFalse
  | isNotFalse
  | isUnknown
  | isNotUnknown
deriving DecidableEq, Repr

instance : Named BoolTestType where
  members := [.isTrue, .isNotTrue, .isFalse, .isNotFalse, .isUnknown, .isNotUnknown]
  name
    | .isTrue => "IsTrue"
    | .isNotTrue => "IsNotTrue"
    | .isFalse => "IsFalse"
    | .isNotFalse => "IsNotFalse"
    | .isUnknown => "IsUnknown"
    | .isNotUnknown => "IsNotUnknown"

/-- The ways to join two relations. -/
inductive JoinType where
  | inner
  | left
  | full
  | right
  | semi
  | anti
deriving DecidableEq, Repr

instance : Named JoinType where
  members := [.inner, .left, .full, .right, .semi, .anti]
  name
    | .inner => "Inner"
    | .left => "Left"
    | .full => "Full"
    | .right => "Right"
    | .semi => "Semi"
    | .anti => "Anti"

/-- What an insertion does about a conflict. -/
inductive OnConflictAction where
  | noAction
  | nothing
  | update
deriving DecidableEq, Repr

instance : Named OnConflictAction where
  members := [.noAction, .nothing, .update]
  name
    | .noAction => "None"
    | .nothing => "Nothing"
    | .update => "Update"

/-- The operations that combine two queries. -/
inductive SetOperation where
  | union
  | intersect
  | except
deriving DecidableEq, Repr

instance : Named SetOperation where
  members := [.union, .intersect, .except]
  name
    | .union => "Union"
    | .intersect => "Intersect"
    | .except => "Except"

/-- Where a check on written rows comes from. -/
inductive WcoKind where
  | viewCheck
  | rlsInsertCheck
  | rlsUpdateCheck
  | rlsConflictCheck
deriving DecidableEq, Repr

instance : Named WcoKind where
  members := [.viewCheck, .rlsInsertCheck, .rlsUpdateCheck, .rlsConflictCheck]
  name
    | .viewCheck => "ViewCheck"
    | .rlsInsertCheck => "RlsInsertCheck"
    | .rlsUpdateCheck => "RlsUpdateCheck"
    | .rlsConflictCheck => "RlsConflictCheck"

/-- The kinds of statement. -/
inductive CmdType where
  | select
  | insert
  | update
  | delete
  | utility
deriving DecidableEq, Repr

instance : Named CmdType where
  members := [.select, .insert, .update, .delete, .utility]
  name
    | .select => "Select"
    | .insert => "Insert"
    | .update => "Update"
    | .delete => "Delete"
    | .utility => "Utility"

end QueryTree
