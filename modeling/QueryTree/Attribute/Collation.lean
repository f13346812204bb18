import QueryTree.Attribute.Type

/-!
# The collations of an expression

The result collation belongs to the value that an expression produces, the input
collation is the one its own evaluation uses.  Both can be set on the kinds that
store them.
-/

namespace QueryTree
namespace Node

open Traversal

/-!
# Result collation
-/

/-- The collation of a node, given those of the nodes below it. -/
def collationWith (collationOf : Node -> Lookup Oid) (node : Node) : Lookup Oid :=
  match node with
  | .var data => pure data.collation
  | .const data => pure data.collation
  | .param data => pure data.collation
  | .aggref data .. => pure data.collation
  | .windowFunc data .. => pure data.collation
  | .arrayRef data .. => pure data.collation
  | .funcExpr data _ => pure data.collation
  | .namedArgExpr _ arg => collationOf arg
  | .opExpr data _ => pure data.collation
  | .distinctExpr data _ => pure data.collation
  | .nullIfExpr data _ => pure data.collation
  | .subLink data _ subselect =>
      match data.linkType with
      | .expr | .array => do collationOf (← subLinkTarget subselect)
      | _ => pure Oid.invalid
  | .fieldSelect data _ => pure data.collation
  | .relabelType data _ => pure data.collation
  | .coerceViaInOut data _ => pure data.collation
  | .arrayCoerceExpr data _ => pure data.collation
  | .collateExpr data _ => pure data.collation
  | .caseExpr data .. => pure data.collation
  | .caseTestExpr data => pure data.collation
  | .arrayExpr data _ => pure data.collation
  | .coalesceExpr data _ => pure data.collation
  | .minMaxExpr data _ => pure data.collation
  | .xmlExpr data .. => pure (if data.op = .serialize then Collation.default else Oid.invalid)
  | .coerceToDomain data _ => pure data.collation
  | .coerceToDomainValue data => pure data.collation
  | .setToDefault data => pure data.collation
  | .inferenceElem _ expr => collationOf expr
  | .groupingFunc .. | .scalarArrayOpExpr .. | .boolExpr .. | .fieldStore ..
  | .convertRowtypeExpr .. | .rowExpr .. | .rowCompareExpr .. | .nullTest .. | .booleanTest ..
  | .currentOfExpr .. => pure Oid.invalid
  | .targetEntry .. | .rangeTblRef .. | .joinExpr .. | .fromExpr .. | .onConflictExpr ..
  | .setOperationStmt .. | .sortGroupClause .. | .windowClause .. | .withCheckOption ..
  | .commonTableExpr .. | .rangeTblFunction .. | .tableSampleClause .. | .query ..
  | .rangeTblEntry .. | .list .. => raise (.unrecognizedNode node.tag .exprCollation)

/-- The collation of the value that an expression produces, zero if it has none. -/
def exprCollation (node : Node) : Lookup Oid :=
  recurse (fun collationOf node => guarded (collationWith collationOf node)) node

/-- The node with its result collation set.  An expression that stores none is
left as it is; anything but an expression is refused. -/
def setCollation (node : Node) (collation : Oid) : Except TreeError Node :=
  match node with
  | .var data => .ok (.var { data with collation })
  | .const data => .ok (.const { data with collation })
  | .param data => .ok (.param { data with collation })
  | .aggref data directArgs args order distinct filter =>
      .ok (.aggref { data with collation } directArgs args order distinct filter)
  | .windowFunc data args filter => .ok (.windowFunc { data with collation } args filter)
  | .arrayRef data upperIndex lowerIndex expr assignExpr =>
      .ok (.arrayRef { data with collation } upperIndex lowerIndex expr assignExpr)
  | .funcExpr data args => .ok (.funcExpr { data with collation } args)
  | .opExpr data args => .ok (.opExpr { data with collation } args)
  | .distinctExpr data args => .ok (.distinctExpr { data with collation } args)
  | .nullIfExpr data args => .ok (.nullIfExpr { data with collation } args)
  | .fieldSelect data arg => .ok (.fieldSelect { data with collation } arg)
  | .relabelType data arg => .ok (.relabelType { data with collation } arg)
  | .coerceViaInOut data arg => .ok (.coerceViaInOut { data with collation } arg)
  | .arrayCoerceExpr data arg => .ok (.arrayCoerceExpr { data with collation } arg)
  | .collateExpr data arg => .ok (.collateExpr { data with collation } arg)
  | .caseExpr data arg whens otherwise =>
      .ok (.caseExpr { data with collation } arg whens otherwise)
  | .caseTestExpr data => .ok (.caseTestExpr { data with collation })
  | .arrayExpr data elements => .ok (.arrayExpr { data with collation } elements)
  | .coalesceExpr data args => .ok (.coalesceExpr { data with collation } args)
  | .minMaxExpr data args => .ok (.minMaxExpr { data with collation } args)
  | .coerceToDomain data arg => .ok (.coerceToDomain { data with collation } arg)
  | .coerceToDomainValue data => .ok (.coerceToDomainValue { data with collation })
  | .setToDefault data => .ok (.setToDefault { data with collation })
  | node =>
      if node.isExpr then .ok node
      else .error (.unrecognizedNode node.tag .setCollation)

/-!
# Input collation
-/

/-- The collation that the evaluation of an expression uses, zero for the kinds
that store none. -/
def inputCollation : Node -> Oid
  | .aggref data .. => data.inputCollation
  | .windowFunc data .. => data.inputCollation
  | .funcExpr data _ => data.inputCollation
  | .opExpr data _ => data.inputCollation
  | .distinctExpr data _ => data.inputCollation
  | .nullIfExpr data _ => data.inputCollation
  | .scalarArrayOpExpr data _ => data.inputCollation
  | .minMaxExpr data _ => data.inputCollation
  | _ => Oid.invalid

/-- The node with its input collation set, where it stores one. -/
def setInputCollation (node : Node) (inputCollation : Oid) : Node :=
  match node with
  | .aggref data directArgs args order distinct filter =>
      .aggref { data with inputCollation } directArgs args order distinct filter
  | .windowFunc data args filter => .windowFunc { data with inputCollation } args filter
  | .funcExpr data args => .funcExpr { data with inputCollation } args
  | .opExpr data args => .opExpr { data with inputCollation } args
  | .distinctExpr data args => .distinctExpr { data with inputCollation } args
  | .nullIfExpr data args => .nullIfExpr { data with inputCollation } args
  | .scalarArrayOpExpr data args => .scalarArrayOpExpr { data with inputCollation } args
  | .minMaxExpr data args => .minMaxExpr { data with inputCollation } args
  | node => node

end Node
end QueryTree
