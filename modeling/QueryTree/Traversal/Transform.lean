import QueryTree.Traversal.Walk

/-!
# Transforming analyzed trees

A transformer is given a node and answers with the node to put in its place,
usually by handing it back to `transformChildren` or `transformQuery`, which put
the transformer's answers in place of everything directly below.  Whatever a
walk does not show is kept as it is.  `transformTree` asks a callback for each
node; a replacement is taken as it is, and a node without one is rebuilt from its
transformed children.
-/

namespace QueryTree

open Traversal

/-- What is put in the place of each node. -/
abbrev Transformer (σ ε : Type) := Node -> Traversal σ ε Node

variable {σ ε : Type} [OfTreeError ε]

/-- Replace the children of a node. -/
def transformChildren (transform : Transformer σ ε) (node : Node) : Traversal σ ε Node :=
  guarded
    (match node with
    | .rangeTblEntry _ => raise (.unrecognizedNode node.tag .transformChildren)
    | _ => do return node.rebuild (← node.children.mapM transform))

/-- Replace the contents of one entry of a range table.  If the scope asks for
entries to be shown, the entry itself is replaced first, and the contents are
those of the replacement. -/
def transformEntry (transform : Transformer σ ε) (scope : Scope) (node : Node) :
    Traversal σ ε Node :=
  guarded do
    let node ← if scope.showEntries then transform node else pure node
    let entry ← expectEntry .transformRangeTable node
    let contents ← (entry.contents scope).mapM transform
    return .rangeTblEntry (entry.withContents scope contents)

/-- Replace the contents of every entry of a range table. -/
def transformRangeTable (transform : Transformer σ ε) (scope : Scope) (rtable : List Node) :
    Traversal σ ε (List Node) :=
  rtable.mapM (transformEntry transform scope)

/-- Replace what `walkQuery` shows of a query. -/
def transformQuery (transform : Transformer σ ε) (scope : Scope) (q : Query) :
    Traversal σ ε Query :=
  guarded do
    let clauses ← q.clauses.mapM transform
    let rtable ←
      if scope.skipRangeTable then pure q.rtable else transformRangeTable transform scope q.rtable
    let cteList ← if scope.skipCtes then pure q.cteList else q.cteList.mapM transform
    return { q.withClauses clauses with rtable, cteList }

/-- Transform what is below a query, or hand any other node to the transformer. -/
def transformQueryOrExpr (transform : Transformer σ ε) (scope : Scope) :
    Node -> Traversal σ ε Node
  | .query q => do return .query (← transformQuery transform scope q)
  | node => transform node

/-- Transform what is below a node: a query as the scope says, nothing for a
range-table entry. -/
def transformBelow (transform : Transformer σ ε) (scope : Scope) : Node -> Traversal σ ε Node
  | .query q => do return .query (← transformQuery transform scope q)
  | .rangeTblEntry entry => pure (.rangeTblEntry entry)
  | node => transformChildren transform node

/-- Transform a tree from the top: where the callback answers with a node, that
node is the result, elsewhere the tree is rebuilt. -/
def transformTree (callback : Node -> Traversal σ ε (Option Node)) (scope : Scope) (node : Node) :
    Traversal σ ε Node :=
  recurse (fun transform node => do
    match ← callback node with
    | some replacement => return replacement
    | none => transformBelow transform scope node) node

/-- Transform everything below a query. -/
def transformQueryTree (callback : Node -> Traversal σ ε (Option Node)) (scope : Scope)
    (q : Query) : Traversal σ ε Query :=
  transformQuery (transformTree callback scope) scope q

end QueryTree
