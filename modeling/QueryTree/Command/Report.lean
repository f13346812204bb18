import QueryTree.Attribute.Location
import QueryTree.Attribute.ReturnsSet
import QueryTree.Attribute.Typmod
import QueryTree.Attribute.Collation
import QueryTree.Json.Record
import QueryTree.Traversal.Raw
import QueryTree.Traversal.Transform

/-!
# What the commands compute

Counts of kinds, the attributes of every expression, and the tree without
implicit coercions.
-/

namespace QueryTree

open Traversal

/-!
# Counting kinds
-/

/-- The kinds of all nodes that a walk shows, newest first. -/
def seenTags (scope : Scope) (tree : Node) : Traversal (List Node.Tag) TreeError Unit := do
  let _ ← walkTree (fun node => do
    modifyState (node.tag :: ·)
    return .proceed) scope tree

def seenRawTags (tree : RawNode) : Traversal (List RawNode.Tag) TreeError Unit := do
  let _ ← walkRawTree (fun node => do
    modifyState (node.tag :: ·)
    return .proceed) tree

/-- How often each kind was seen, in declaration order, without those that were
not seen. -/
def tally {α : Type} [DecidableEq α] [Named α] (seen : List α) : List (α × Nat) :=
  (Named.members.map fun tag => (tag, seen.count tag)).filter fun (_, count) => count != 0

/-- The kinds of a tree with their counts. -/
def countKinds (scope : Scope) (nesting : Nesting) (tree : Node) :
    Except TreeError (List (Node.Tag × Nat)) :=
  let (result, _, seen) := runFrom (seenTags scope tree) nesting []
  result.map fun _ => tally seen

def countRawKinds (nesting : Nesting) (tree : RawNode) :
    Except TreeError (List (RawNode.Tag × Nat)) :=
  let (result, _, seen) := runFrom (seenRawTags tree) nesting []
  result.map fun _ => tally seen

/-!
# Attributes of expressions
-/

/-- The attributes of one expression. -/
structure AttributeRow where
  kind : Node.Tag
  typeOid : Oid
  typeName : Option String
  typmod : Int32
  collation : Oid
  inputCollation : Oid
  location : Location
deriving DecidableEq, Repr

namespace AttributeRow

/-- Look up all attributes of an expression. -/
def ofNode (catalog : Catalog) (node : Node) : Lookup AttributeRow := do
  let typeOid ← node.exprType catalog
  let typmod ← node.exprTypmod catalog
  let collation ← node.exprCollation
  let location ← node.exprLocation
  return {
    kind := node.tag
    typeOid
    typeName := catalog.typeName typeOid
    typmod
    collation
    inputCollation := node.inputCollation
    location }

def fields : List String :=
  ["kind", "type_oid", "type_name", "typmod", "collation", "input_collation", "location"]

open Json (encode) in
def toJson (row : AttributeRow) : Json :=
  Json.ofRecord fields
    [encode row.kind, encode row.typeOid, encode row.typeName, encode row.typmod,
     encode row.collation, encode row.inputCollation, encode row.location]

end AttributeRow

/-- Look up the attributes of every expression of a tree, newest first. -/
def collectRow (catalog : Catalog) (scope : Scope) :
    Node -> Traversal (List AttributeRow) TreeError Control :=
  recurse fun visit node => do
    if node.isExpr then
      let row ← ofLookup (AttributeRow.ofNode catalog node)
      modifyState (row :: ·)
    walkBelow visit scope node

/-- The attributes of every expression in a tree, in the order of the walk. -/
def collectAttributes (catalog : Catalog) (scope : Scope) (nesting : Nesting) (tree : Node) :
    Except TreeError (List AttributeRow) :=
  let (result, _, rows) :=
    runFrom (walkQueryOrExpr (collectRow catalog scope) scope tree) nesting []
  result.map fun _ => rows.reverse

/-!
# Removing implicit coercions
-/

/-- Put the written expression in the place of every implicit coercion. -/
def stripCoercions (scope : Scope) : Transformer Unit TreeError :=
  recurse fun transform node => transformBelow transform scope node.stripImplicit

/-- A tree without implicit coercions. -/
def stripTree (scope : Scope) (nesting : Nesting) (tree : Node) : Except TreeError Node :=
  Lookup.answer (transformQueryOrExpr (stripCoercions scope) scope tree) nesting

end QueryTree
