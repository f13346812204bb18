import QueryTree.Attribute.Collation
import QueryTree.Traversal.Transform

/-!
# Assigning collations

A collation may only be put on an expression of a collatable type.  The checked
setter refuses others, and the assignment pass only sets the collation where the
check lets it.
-/

namespace QueryTree

open Traversal

/-- Why a collation could not be assigned. -/
inductive CollationError where
  | tree (error : TreeError)
  /-- The type of the node is not collatable. -/
  | notCollatable (collation : Oid) (tag : Node.Tag) (type : Oid)
deriving DecidableEq, Repr

namespace CollationError

instance : OfTreeError CollationError where
  ofTreeError := .tree

def message : CollationError -> String
  | .tree error => error.message
  | .notCollatable collation tag type =>
      "collation " ++ toString collation.toNat ++ " assigned to " ++ tag.name ++
        " of non-collatable type " ++ toString type.toNat

end CollationError

namespace Node

/-- The type of a node, if it can be found. -/
def typeIfKnown (catalog : Catalog) (node : Node) : Traversal Unit CollationError (Option Oid) :=
  tryCatch (do return some (← node.exprType catalog)) fun _ => return none

/-- Set the result collation, unless the type of the expression is known not to be
collatable. -/
def setCollationChecked (catalog : Catalog) (node : Node) (collation : Oid) :
    Traversal Unit CollationError Node := do
  if collation ≠ Oid.invalid ∧ node.isExpr then
    if let some type ← node.typeIfKnown catalog then
      unless catalog.isCollatable type do
        throw (.notCollatable collation node.tag type)
  match node.setCollation collation with
  | .ok node => return node
  | .error error => raise error

/-- Set the collations of a node if it is an expression of a collatable type. -/
def assignHere (catalog : Catalog) (collation : Oid) (node : Node) :
    Traversal Unit CollationError Node := do
  if node.isExpr then
    if catalog.isCollatable (← node.exprType catalog) then
      return (← node.setCollationChecked catalog collation).setInputCollation collation
  return node

/-- Put a collation on every expression of a collatable type in a tree, children
first.  Queries are not entered. -/
def assignCollation (catalog : Catalog) (collation : Oid) (node : Node) :
    Traversal Unit CollationError Node :=
  recurse (fun assign node => do
    assignHere catalog collation (← transformChildren assign node)) node

end Node

end QueryTree
