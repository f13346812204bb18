import QueryTree.Traversal.Walk

/-!
# Whether an expression returns a set

A call or an operator may return several rows, and then so does everything
around it that passes the rows on.  Some kinds never do, whatever their
arguments.
-/

namespace QueryTree
namespace Node

open Traversal

/-- Whether a node returns a set by itself. -/
def isSetReturning : Node -> Bool
  | .funcExpr data _ => data.returnsSet
  | .opExpr data _ => data.returnsSet
  | _ => false

/-- Whether a kind gives one value even if its arguments return sets. -/
def Tag.isScalarBarrier : Tag -> Bool
  | .aggref | .windowFunc | .distinctExpr | .nullIfExpr | .scalarArrayOpExpr | .boolExpr
  | .subLink | .arrayExpr | .rowExpr | .rowCompareExpr | .coalesceExpr | .minMaxExpr
  | .xmlExpr => true
  | _ => false

/-- A walk that stops at the first node that returns a set. -/
def findSetReturning (node : Node) : Lookup Control :=
  recurse (fun visit node =>
    if node.isSetReturning then pure .stop
    else if node.tag.isScalarBarrier then pure .proceed
    else walkChildren visit node) node

/-- Whether evaluating an expression can give more than one row. -/
def returnsSet (node : Node) : Lookup Bool := do
  return (← findSetReturning node) = .stop

end Node
end QueryTree
