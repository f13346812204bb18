import QueryTree.Attribute.Coercion
import QueryTree.Attribute.Collation

/-!
# Relabeling
-/

namespace QueryTree
namespace Node

/-- The node relabeled to another type modifier.  Its type and collation stay,
and relabelings that it has already are taken off first. -/
def relabelToTypmod (catalog : Catalog) (node : Node) (typmod : Int32) : Lookup Node := do
  let type ← node.exprType catalog
  let collation ← node.exprCollation
  return relabel node.stripRelabels type typmod collation .explicitCast

end Node
end QueryTree
