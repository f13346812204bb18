import QueryTree.Node.Children
import QueryTree.RawNode.Children
import QueryTree.Traversal.Nesting

/-!
# Where an expression stands in the statement

The location of a node is the leftmost one among its own token and the children
that can stand to the left of it.  Many kinds have no location at all.
-/

namespace QueryTree

open Traversal

namespace Location

/-- The leftmost of two locations, as far as they are known. -/
def leftmost : Location -> Location -> Location
  | some a, some b => some (min a b)
  | a, none => a
  | none, b => b

/-- The first location that is known. -/
def firstKnown {α : Type} (locationOf : α -> Lookup Location) : List α -> Lookup Location
  | [] => return none
  | x :: rest => do
      match ← locationOf x with
      | some location => return some location
      | none => firstKnown locationOf rest

/-- The location of something that may be missing. -/
def ofOption {α : Type} (locationOf : α -> Lookup Location) : Option α -> Lookup Location
  | none => return none
  | some x => locationOf x

end Location

open Location

/-!
# Analyzed nodes
-/

namespace Node

/-- The location of a node, given those of the nodes below it. -/
def locationWith (locationOf : Node -> Lookup Location) : Node -> Lookup Location
  | .var data => pure data.location
  | .const data => pure data.location
  | .param data => pure data.location
  | .aggref data .. => pure data.location
  | .groupingFunc data _ => pure data.location
  | .windowFunc data .. => pure data.location
  | .arrayRef _ _ _ expr _ => locationOf expr
  | .funcExpr data args => do return leftmost data.location (← firstKnown locationOf args)
  | .namedArgExpr data arg => do return leftmost data.location (← locationOf arg)
  | .opExpr data args => do return leftmost data.location (← firstKnown locationOf args)
  | .distinctExpr data args => do return leftmost data.location (← firstKnown locationOf args)
  | .nullIfExpr data args => do return leftmost data.location (← firstKnown locationOf args)
  | .scalarArrayOpExpr data args => do
      return leftmost data.location (← firstKnown locationOf args)
  | .boolExpr data args => do return leftmost data.location (← firstKnown locationOf args)
  | .subLink data testExpr _ => do
      return leftmost (← ofOption locationOf testExpr) data.location
  | .fieldSelect _ arg => locationOf arg
  | .fieldStore _ arg _ => locationOf arg
  | .relabelType data arg => do return leftmost data.location (← locationOf arg)
  | .coerceViaInOut data arg => do return leftmost data.location (← locationOf arg)
  | .arrayCoerceExpr data arg => do return leftmost data.location (← locationOf arg)
  | .convertRowtypeExpr data arg => do return leftmost data.location (← locationOf arg)
  | .collateExpr _ arg => locationOf arg
  | .caseExpr data .. => pure data.location
  | .arrayExpr data _ => pure data.location
  | .rowExpr data _ => pure data.location
  | .rowCompareExpr _ leftArgs _ => firstKnown locationOf leftArgs
  | .coalesceExpr data _ => pure data.location
  | .minMaxExpr data _ => pure data.location
  | .xmlExpr data _ args => do return leftmost data.location (← firstKnown locationOf args)
  | .nullTest data arg => do return leftmost data.location (← locationOf arg)
  | .booleanTest data arg => do return leftmost data.location (← locationOf arg)
  | .coerceToDomain data arg => do return leftmost data.location (← locationOf arg)
  | .coerceToDomainValue data => pure data.location
  | .setToDefault data => pure data.location
  | .inferenceElem _ expr => locationOf expr
  | .targetEntry _ expr => locationOf expr
  | .commonTableExpr data _ => pure data.location
  | .list items => firstKnown locationOf items
  | .caseTestExpr .. | .currentOfExpr .. | .rangeTblRef .. | .joinExpr .. | .fromExpr ..
  | .onConflictExpr .. | .setOperationStmt .. | .sortGroupClause .. | .windowClause ..
  | .withCheckOption .. | .rangeTblFunction .. | .tableSampleClause .. | .query ..
  | .rangeTblEntry .. => pure none

/-- The location of a node. -/
def exprLocation (node : Node) : Lookup Location :=
  recurse (fun locationOf node => guarded (locationWith locationOf node)) node

end Node

/-!
# Raw nodes
-/

namespace RawNode

/-- The location of a raw node, given those of the nodes below it. -/
def locationWith (locationOf : RawNode -> Lookup Location) : RawNode -> Lookup Location
  | .paramRef data => pure data.location
  | .aConst data => pure data.location
  | .rangeVar data _ => pure data.location
  | .groupingFunc location _ => pure location
  | .subLink data testExpr _ => do
      return leftmost (← ofOption locationOf testExpr) data.location
  | .caseExpr location .. => pure location
  | .rowExpr data _ => pure data.location
  | .coalesceExpr location _ => pure location
  | .minMaxExpr data _ => pure data.location
  | .xmlExpr data _ args => do return leftmost data.location (← firstKnown locationOf args)
  | .nullTest data arg => do return leftmost data.location (← locationOf arg)
  | .booleanTest data arg => do return leftmost data.location (← locationOf arg)
  | .intoClause _ rel _ => locationOf rel
  | .list items => firstKnown locationOf items
  | .aExpr data lexpr _ => do return leftmost data.location (← ofOption locationOf lexpr)
  | .columnRef location _ => pure location
  | .funcCall data args .. => do return leftmost data.location (← firstKnown locationOf args)
  | .namedArgExpr data arg => do return leftmost data.location (← locationOf arg)
  | .aArrayExpr location _ => pure location
  | .resTarget data .. => pure data.location
  | .multiAssignRef _ source => locationOf source
  | .typeCast location arg type => do
      return leftmost (leftmost (← locationOf arg) (← locationOf type)) location
  | .collateClause _ arg => ofOption locationOf arg
  | .sortBy _ node => locationOf node
  | .windowDef data .. => pure data.location
  | .rangeTableSample data .. => pure data.location
  | .typeName data .. => pure data.location
  | .columnDef data .. => pure data.location
  | .groupingSet data _ => pure data.location
  | .xmlSerialize data .. => pure data.location
  | .withClause data _ => pure data.location
  | .inferClause data .. => pure data.location
  | .onConflictClause data .. => pure data.location
  | .commonTableExpr data _ => pure data.location
  | .setToDefault data => pure data.location
  | .value .. | .aStar | .rangeAlias .. | .joinExpr .. | .insertStmt .. | .deleteStmt ..
  | .updateStmt .. | .selectStmt .. | .aIndices .. | .aIndirection .. | .rangeSubselect ..
  | .rangeFunction .. | .indexElem .. | .lockingClause .. | .currentOfExpr .. => pure none

/-- The location of a raw node. -/
def exprLocation (node : RawNode) : Lookup Location :=
  recurse (fun locationOf node => guarded (locationWith locationOf node)) node

end RawNode

end QueryTree
