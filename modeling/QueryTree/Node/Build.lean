import QueryTree.BuiltinType
import QueryTree.Node.Basic

/-!
# Building common nodes

Nodes that a transformation often needs.  None of them has a location, since none was
written in the statement.
-/

namespace QueryTree
namespace Node

def ofVar (rtindex : UInt32) (attno : Int16) (type : Oid) (typmod : Int32) (collation : Oid)
    (levelsUp : UInt32) : Node :=
  .var { rtindex, attno, typeOid := type, typmod, collation, levelsUp, location := none }

def ofDatum (type : Oid) (typmod : Int32) (collation : Oid) (len : Int32) (value : Datum)
    (byVal : Bool) : Node :=
  .const { typeOid := type, typmod, collation, len, byVal, value, location := none }

/-- A four-byte integer constant. -/
def ofInt4 (value : Int32) : Node :=
  ofDatum BuiltinType.int4.toOid (-1) Oid.invalid 4 (.int4 value) true

/-- A boolean constant. -/
def ofBool (value : Bool) : Node :=
  ofDatum BuiltinType.bool.toOid (-1) Oid.invalid 1 (.bool value) true

/-- The null of a type. -/
def ofNull (type : Oid) (typmod : Int32) (collation : Oid) : Node :=
  ofDatum type typmod collation (-1) .null false

def relabel (arg : Node) (resultType : Oid) (typmod : Int32) (collation : Oid)
    (format : CoercionForm) : Node :=
  .relabelType { resultType, typmod, collation, format, location := none } arg

def target (expr : Node) (resno : Int16) (name : Option String) (junk : Bool) : Node :=
  .targetEntry
    { resno, name, sortGroupRef := 0, origTable := Oid.invalid, origColumn := 0, junk } expr

def call (funcOid resultType : Oid) (args : List Node) (collation inputCollation : Oid)
    (format : CoercionForm) : Node :=
  .funcExpr
    { funcOid, resultType, returnsSet := false, variadic := false, format, collation,
      inputCollation, location := none } args

/-- A binary operator without any collation. -/
def binary (opOid funcOid resultType : Oid) (left right : Node) : Node :=
  .opExpr
    { opOid, funcOid, resultType, returnsSet := false, collation := Oid.invalid,
      inputCollation := Oid.invalid, location := none } [left, right]

def connective (op : BoolExprType) (args : List Node) (location : Location) : Node :=
  .boolExpr { op, location } args

/-- The conjunction of two conditions, either of which may be missing. -/
def conjunction? : Option Node -> Option Node -> Option Node
  | none, right => right
  | left, none => left
  | some left, some right => some (connective .and [left, right] none)

end Node
end QueryTree
