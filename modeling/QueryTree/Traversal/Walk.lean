import QueryTree.Node.Clauses
import QueryTree.Traversal.Control

/-!
# Walking analyzed trees

A visitor is shown a node and decides what happens below it, usually by handing
it back to `walkChildren` or `walkQuery`, which show it everything directly
below.  `walkTree` is the walk whose visitor is shown every node before the
nodes below it, and enters every query within its scope.
-/

namespace QueryTree

open Traversal

/-- What is done with each node of a walk. -/
abbrev Visitor (σ ε : Type) := Node -> Traversal σ ε Control

variable {σ ε : Type} [OfTreeError ε]

/-- Show the children of a node.  A range-table entry has a walk of its own and
may not come here. -/
def walkChildren (visit : Visitor σ ε) (node : Node) : Traversal σ ε Control :=
  guarded
    (match node with
    | .rangeTblEntry _ => raise (.unrecognizedNode node.tag .walkChildren)
    | _ => visitAll visit node.children)

/-- The range-table entry that a node has to be. -/
def expectEntry (operation : TreeError.Operation) : Node -> Traversal σ ε RangeTblEntry
  | .rangeTblEntry entry => pure entry
  | node => raise (.unrecognizedNode node.tag operation)

/-- Show the contents of one entry of a range table, and before them the entry
itself if the scope asks for it. -/
def walkEntry (visit : Visitor σ ε) (scope : Scope) (node : Node) : Traversal σ ε Control :=
  guarded do
    let entry ← expectEntry .walkRangeTable node
    andThen (if scope.showEntries then visit node else pure .proceed)
      (visitAll visit (entry.contents scope))

/-- Show the contents of every entry of a range table. -/
def walkRangeTable (visit : Visitor σ ε) (scope : Scope) (rtable : List Node) :
    Traversal σ ε Control :=
  visitAll (walkEntry visit scope) rtable

/-- Show the clauses of a query, then its range table and its `WITH` list as far
as the scope covers them.  The query itself is not shown. -/
def walkQuery (visit : Visitor σ ε) (scope : Scope) (q : Query) : Traversal σ ε Control :=
  guarded
    (andThen (visitAll visit q.clauses)
      (andThen
        (if scope.skipRangeTable then pure .proceed else walkRangeTable visit scope q.rtable)
        (if scope.skipCtes then pure .proceed else visitAll visit q.cteList)))

/-- Walk a query, or show any other node to the visitor. -/
def walkQueryOrExpr (visit : Visitor σ ε) (scope : Scope) : Node -> Traversal σ ε Control
  | .query q => walkQuery visit scope q
  | node => visit node

/-- Go below a node: into a query as the scope says, into nothing for a
range-table entry, since its contents are shown by its range table. -/
def walkBelow (visit : Visitor σ ε) (scope : Scope) : Node -> Traversal σ ε Control
  | .query q => walkQuery visit scope q
  | .rangeTblEntry _ => pure .proceed
  | node => walkChildren visit node

/-- Show every node of a tree to a callback, each one before those below it. -/
def walkTree (callback : Visitor σ ε) (scope : Scope) (node : Node) : Traversal σ ε Control :=
  recurse (fun visit node => andThen (callback node) (walkBelow visit scope node)) node

/-- Show every node below a query to a callback. -/
def walkQueryTree (callback : Visitor σ ε) (scope : Scope) (q : Query) : Traversal σ ε Control :=
  walkQuery (walkTree callback scope) scope q

end QueryTree
