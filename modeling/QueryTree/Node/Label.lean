import QueryTree.Node.Tag

/-!
# Labels of nodes

A label names a node by its kind and, for some kinds, by a detail that tells it
from other nodes of its kind.
-/

namespace QueryTree
namespace Node

/-- What tells a node from others of its kind. -/
def detail? : Node -> Option String
  | .const data => data.value.int4?.map fun value => toString value.toInt
  | .var data => some (toString data.rtindex.toNat ++ "." ++ toString data.attno.toInt)
  | .rangeTblRef rtindex => some (toString rtindex.toNat)
  | .targetEntry data _ => some (toString data.resno.toInt)
  | .rangeTblEntry entry => some entry.header.eref.name
  | .commonTableExpr data _ => some data.name
  | _ => none

/-- What a label tells of a node: its kind, and its detail if it has one. -/
def caption (node : Node) : Tag × Option String :=
  (node.tag, node.detail?)

/-- The kind of a node with its detail. -/
def name (node : Node) : String :=
  match node.detail? with
  | some detail => node.tag.name ++ ":" ++ detail
  | none => node.tag.name

/-- The name of a node together with the depth at which it was met. -/
def label (node : Node) (depth : Nat) : String :=
  node.name ++ "@" ++ toString depth

end Node
end QueryTree
