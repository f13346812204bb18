import QueryTree.Attribute.Coercion
import QueryTree.Attribute.Type

/-!
# The type modifier of an expression

A type modifier refines a type, for instance by a length; `-1` says that nothing
is known.  An expression that gives one of several values has the type modifier
they all share, as long as they are all of the type of the expression.
-/

namespace QueryTree
namespace Node

open Traversal

/-- The type modifier of an expression that says nothing about it. -/
def unknownTypmod : Int32 := -1

/-- Whether each of some arms has a given type and type modifier. -/
def allAgree (typeOf : Node -> Lookup Oid) (typmodOf : Node -> Lookup Int32) (type : Oid)
    (typmod : Int32) : List Node -> Lookup Bool
  | [] => return true
  | arm :: rest => do
      if (← typeOf arm) ≠ type then return false
      if (← typmodOf arm) ≠ typmod then return false
      allAgree typeOf typmodOf type typmod rest

/-- The type modifier that all arms share, when each of them is of the given type
and the first has one. -/
def commonTypmod (typeOf : Node -> Lookup Oid) (typmodOf : Node -> Lookup Int32) (type : Oid) :
    List Node -> Lookup Int32
  | [] => return unknownTypmod
  | first :: rest => do
      if (← typeOf first) ≠ type then return unknownTypmod
      let typmod ← typmodOf first
      if typmod < 0 then return unknownTypmod
      if ← allAgree typeOf typmodOf type typmod rest then return typmod
      return unknownTypmod

/-- The type modifier of a node, given those of the nodes below it. -/
def typmodWith (typeOf : Node -> Lookup Oid) (typmodOf : Node -> Lookup Int32) (node : Node) :
    Lookup Int32 :=
  match node with
  | .var data => pure data.typmod
  | .const data => pure data.typmod
  | .param data => pure data.typmod
  | .arrayRef data .. => pure data.typmod
  | .funcExpr .. => pure (node.lengthCoercion?.getD unknownTypmod)
  | .namedArgExpr _ arg => typmodOf arg
  | .nullIfExpr _ args =>
      -- The result is the first argument or null.
      match args with
      | first :: _ => typmodOf first
      | [] => pure unknownTypmod
  | .subLink data _ subselect =>
      match data.linkType with
      | .expr | .array => do typmodOf (← subLinkTarget subselect)
      | _ => pure unknownTypmod
  | .fieldSelect data _ => pure data.typmod
  | .relabelType data _ => pure data.typmod
  | .arrayCoerceExpr data _ => pure data.typmod
  | .collateExpr _ arg => typmodOf arg
  | .caseExpr data _ whens otherwise =>
      match otherwise with
      | none => pure unknownTypmod
      | some otherwise =>
          commonTypmod typeOf typmodOf data.caseType (otherwise :: whens.map CaseWhen.result)
  | .caseTestExpr data => pure data.typmod
  | .arrayExpr data elements =>
      commonTypmod typeOf typmodOf (if data.multidims then data.arrayType else data.elementType)
        elements
  | .coalesceExpr data args => commonTypmod typeOf typmodOf data.coalesceType args
  | .minMaxExpr data args => commonTypmod typeOf typmodOf data.minmaxType args
  | .coerceToDomain data _ => pure data.typmod
  | .coerceToDomainValue data => pure data.typmod
  | .setToDefault data => pure data.typmod
  | .inferenceElem _ expr => typmodOf expr
  | .aggref .. | .groupingFunc .. | .windowFunc .. | .opExpr .. | .distinctExpr ..
  | .scalarArrayOpExpr .. | .boolExpr .. | .fieldStore .. | .coerceViaInOut ..
  | .convertRowtypeExpr .. | .rowExpr .. | .rowCompareExpr .. | .xmlExpr .. | .nullTest ..
  | .booleanTest .. | .currentOfExpr .. => pure unknownTypmod
  | .targetEntry .. | .rangeTblRef .. | .joinExpr .. | .fromExpr .. | .onConflictExpr ..
  | .setOperationStmt .. | .sortGroupClause .. | .windowClause .. | .withCheckOption ..
  | .commonTableExpr .. | .rangeTblFunction .. | .tableSampleClause .. | .query ..
  | .rangeTblEntry .. | .list .. => raise (.unrecognizedNode node.tag .exprTypmod)

/-- The type modifier of an expression. -/
def exprTypmod (catalog : Catalog) (node : Node) : Lookup Int32 :=
  recurse (fun typmodOf node => guarded (typmodWith (exprType catalog) typmodOf node)) node

end Node
end QueryTree
