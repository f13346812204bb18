import QueryTree.RawNode.Children
import QueryTree.Traversal.Control

/-!
# Walking raw trees

Before analysis there is nothing like a range table, so statements are walked
like expressions.
-/

namespace QueryTree

open Traversal

/-- What is done with each node of a walk over a raw tree. -/
abbrev RawVisitor (σ ε : Type) := RawNode -> Traversal σ ε Control

variable {σ ε : Type} [OfTreeError ε]

/-- Show the children of a raw node. -/
def walkRawChildren (visit : RawVisitor σ ε) (node : RawNode) : Traversal σ ε Control :=
  guarded (visitAll visit node.children)

/-- Show every node of a raw tree to a callback, each one before those below it. -/
def walkRawTree (callback : RawVisitor σ ε) (node : RawNode) : Traversal σ ε Control :=
  recurse (fun visit node => andThen (callback node) (walkRawChildren visit node)) node

end QueryTree
