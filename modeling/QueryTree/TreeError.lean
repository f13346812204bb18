import QueryTree.Node.Tag

/-!
# What can be wrong with a tree
-/

namespace QueryTree

/-- The operations that have rules for some kinds of nodes only. -/
inductive TreeError.Operation where
  | walkChildren
  | transformChildren
  | walkRangeTable
  | transformRangeTable
  | exprType
  | exprTypmod
  | exprCollation
  | setCollation
  | subLinkTarget
deriving DecidableEq, Repr

/-- How an operation is named in a message. -/
def TreeError.Operation.text : TreeError.Operation -> String
  | .walkChildren => "expression_tree_walker"
  | .transformChildren => "expression_tree_mutator"
  | .walkRangeTable => "range_table_walker"
  | .transformRangeTable => "range_table_mutator"
  | .exprType => "expr_type"
  | .exprTypmod => "expr_typmod"
  | .exprCollation => "expr_collation"
  | .setCollation => "expr_set_collation"
  | .subLinkTarget => "sublink target list"

/-- The reasons for which a traversal or a lookup fails. -/
inductive TreeError where
  /-- A node of a kind that the operation has no rule for. -/
  | unrecognizedNode (tag : Node.Tag) (operation : TreeError.Operation)
  /-- A sub-select that is not an analyzed query with an output column. -/
  | unanalyzedSubLink
  /-- A type without an array type. -/
  | missingArrayType (type : Oid)
  /-- Nesting beyond the limit. -/
  | stackDepthExceeded (depth limit : Nat)
deriving DecidableEq, Repr

namespace TreeError

def message : TreeError -> String
  | .unrecognizedNode tag operation =>
      "unrecognized node type: " ++ tag.name ++ " (" ++ operation.text ++ ")"
  | .unanalyzedSubLink => "cannot handle unplanned sub-select"
  | .missingArrayType type => "could not find array type for data type " ++ toString type.toNat
  | .stackDepthExceeded depth limit =>
      "stack depth limit exceeded: depth " ++ toString depth ++ " exceeds limit " ++ toString limit

/-- The error code that a client sees. -/
def sqlstate : TreeError -> String
  | .unrecognizedNode .. => "XX000"
  | .unanalyzedSubLink => "XX000"
  | .missingArrayType _ => "42704"
  | .stackDepthExceeded .. => "54001"

/-- An internal error says that the tree is malformed, rather than the statement
bad. -/
def isInternal (error : TreeError) : Bool :=
  error.sqlstate == "XX000"

end TreeError

end QueryTree
