import QueryTree.Catalog
import QueryTree.Node.Children
import QueryTree.Traversal.Nesting

/-!
# The type of an expression

Most expressions say their type themselves.  Wrappers have the type of what they
wrap, a sub-select that of its first output column, and an array of a sub-select
the array type over that.
-/

namespace QueryTree
namespace Node

open Traversal

/-- The expression of the first output column of an analyzed sub-select. -/
def subLinkTarget (subselect : Node) : Lookup Node :=
  match subselect with
  | .query { targetList := first :: _, .. } =>
      match first with
      | .targetEntry _ expr => pure expr
      | other => raise (.unrecognizedNode other.tag .subLinkTarget)
  | _ => raise .unanalyzedSubLink

/-- The type of a node, given the types of the nodes below it. -/
def typeWith (catalog : Catalog) (typeOf : Node -> Lookup Oid) (node : Node) : Lookup Oid :=
  match node with
  | .var data => pure data.typeOid
  | .const data => pure data.typeOid
  | .param data => pure data.typeOid
  | .aggref data .. => pure data.resultType
  | .groupingFunc .. => pure BuiltinType.int4.toOid
  | .windowFunc data .. => pure data.resultType
  | .arrayRef data _ lowerIndex _ assignExpr =>
      -- A slice and an assignment give the whole array.
      if !lowerIndex.isEmpty || assignExpr.isSome then pure data.arrayType
      else pure data.elementType
  | .funcExpr data _ => pure data.resultType
  | .namedArgExpr _ arg => typeOf arg
  | .opExpr data _ => pure data.resultType
  | .distinctExpr data _ => pure data.resultType
  | .nullIfExpr data _ => pure data.resultType
  | .scalarArrayOpExpr .. => pure BuiltinType.bool.toOid
  | .boolExpr .. => pure BuiltinType.bool.toOid
  | .subLink data _ subselect =>
      match data.linkType with
      | .expr => do typeOf (← subLinkTarget subselect)
      | .array => do
          let element ← typeOf (← subLinkTarget subselect)
          match catalog.promotedArrayType element with
          | some array => return array
          | none => raise (.missingArrayType element)
      | .multiExpr => pure BuiltinType.record.toOid
      | .existsLink | .allLink | .anyLink | .rowCompare | .cte => pure BuiltinType.bool.toOid
  | .fieldSelect data _ => pure data.resultType
  | .fieldStore data .. => pure data.resultType
  | .relabelType data _ => pure data.resultType
  | .coerceViaInOut data _ => pure data.resultType
  | .arrayCoerceExpr data _ => pure data.resultType
  | .convertRowtypeExpr data _ => pure data.resultType
  | .collateExpr _ arg => typeOf arg
  | .caseExpr data .. => pure data.caseType
  | .caseTestExpr data => pure data.typeOid
  | .arrayExpr data _ => pure data.arrayType
  | .rowExpr data _ => pure data.rowType
  | .rowCompareExpr .. => pure BuiltinType.bool.toOid
  | .coalesceExpr data _ => pure data.coalesceType
  | .minMaxExpr data _ => pure data.minmaxType
  | .xmlExpr data .. =>
      match data.op with
      | .isDocument => pure BuiltinType.bool.toOid
      | .serialize => pure BuiltinType.text.toOid
      | _ => pure BuiltinType.xml.toOid
  | .nullTest .. => pure BuiltinType.bool.toOid
  | .booleanTest .. => pure BuiltinType.bool.toOid
  | .coerceToDomain data _ => pure data.resultType
  | .coerceToDomainValue data => pure data.typeOid
  | .setToDefault data => pure data.typeOid
  | .currentOfExpr .. => pure BuiltinType.bool.toOid
  | .inferenceElem _ expr => typeOf expr
  | .targetEntry .. | .rangeTblRef .. | .joinExpr .. | .fromExpr .. | .onConflictExpr ..
  | .setOperationStmt .. | .sortGroupClause .. | .windowClause .. | .withCheckOption ..
  | .commonTableExpr .. | .rangeTblFunction .. | .tableSampleClause .. | .query ..
  | .rangeTblEntry .. | .list .. => raise (.unrecognizedNode node.tag .exprType)

/-- The type of the value that an expression produces. -/
def exprType (catalog : Catalog) (node : Node) : Lookup Oid :=
  recurse (fun typeOf node => guarded (typeWith catalog typeOf node)) node

end Node
end QueryTree
