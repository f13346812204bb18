import QueryTree.Named

/-!
# Choices in a raw tree

The enumerations that only occur before analysis.
-/

namespace QueryTree

/-- The kinds of operator expression before analysis. -/
inductive AExprKind where
  | op
  | opAny
  | opAll
  | distinct
  | nullIf
  | isOf
  | inList
  | like
  | iLike
  | similar
  | between
  | notBetween
  | betweenSym
  | notBetweenSym
deriving DecidableEq, Repr

instance : Named AExprKind where
  members :=
    [.op, .opAny, .opAll, .distinct, .nullIf, .isOf, .inList, .like, .iLike, .similar,
     .between, .notBetween, .betweenSym, .notBetweenSym]
  name
    | .op => "Op"
    | .opAny => "OpAny"
    | .opAll => "OpAll"
    | .distinct => "Distinct"
    | .nullIf => "NullIf"
    | .isOf => "Of"
    | .inList => "In"
    | .like => "Like"
    | .iLike => "ILike"
    | .similar => "Similar"
    | .between => "Between"
    | .notBetween => "NotBetween"
    | .betweenSym => "BetweenSym"
    | .notBetweenSym => "NotBetweenSym"

/-- A sort direction as written. -/
inductive SortByDir where
  | unspecified
  | asc
  | desc
  | usingOp
deriving DecidableEq, Repr

instance : Named SortByDir where
  members := [.unspecified, .asc, .desc, .usingOp]
  name
    | .unspecified => "Default"
    | .asc => "Asc"
    | .desc => "Desc"
    | .usingOp => "Using"

/-- Where nulls sort, as written. -/
inductive SortByNulls where
  | unspecified
  | first
  | last
deriving DecidableEq, Repr

instance : Named SortByNulls where
  members := [.unspecified, .first, .last]
  name
    | .unspecified => "Default"
    | .first => "First"
    | .last => "Last"

/-- The kinds of grouping set. -/
inductive GroupingSetKind where
  | empty
  | simple
  | rollup
  | cube
  | sets
deriving DecidableEq, Repr

instance : Named GroupingSetKind where
  members := [.empty, .simple, .rollup, .cube, .sets]
  name
    | .empty => "Empty"
    | .simple => "Simple"
    | .rollup => "Rollup"
    | .cube => "Cube"
    | .sets => "Sets"

/-- How strongly rows are locked. -/
inductive LockClauseStrength where
  | keyShare
  | share
  | noKeyUpdate
  | update
deriving DecidableEq, Repr

instance : Named LockClauseStrength where
  members := [.keyShare, .share, .noKeyUpdate, .update]
  name
    | .keyShare => "KeyShare"
    | .share => "Share"
    | .noKeyUpdate => "NoKeyUpdate"
    | .update => "Update"

/-- What to do about rows that are locked already. -/
inductive LockWaitPolicy where
  | block
  | skip
  | error
deriving DecidableEq, Repr

instance : Named LockWaitPolicy where
  members := [.block, .skip, .error]
  name
    | .block => "Block"
    | .skip => "Skip"
    | .error => "Error"

end QueryTree
