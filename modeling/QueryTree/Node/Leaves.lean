import QueryTree.Json.Record
import QueryTree.Node.Fields

/-!
# Written forms of the leaves of a tree

Constants and aliases.  A decimal is written as text, so that none of its places
are lost; it may be read from a number too.
-/

namespace QueryTree

open Json (alternative alternatives decode encode ofRecord record Coded Decode Fields)

/-!
# Numbers
-/

/-- How a single-precision constant is written: in the digits that a single
needs, or in those of the double of the same value. -/
inductive SingleForm where
  | single
  | double
deriving DecidableEq, Repr

/-- A double.  Only finite numbers can be written. -/
def floatToJson (x : Float) : Json :=
  if x.isFinite then .num (Json.Number.ofFloat x) else .null

def SingleForm.toJson (form : SingleForm) (x : Float32) : Json :=
  match form with
  | .single => if x.isFinite then .num (Json.Number.ofFloat32 x) else .null
  | .double => floatToJson x.toFloat

def readFloat : Json -> Decode Float
  | .num number =>
      match number.toFloat? with
      | some x => pure x
      | none => failure
  | _ => failure

/-- A single.  An integer is rounded once, any other number first to a double. -/
def readFloat32 : Json -> Decode Float32
  | .num number =>
      match number.toInt?, number.toFloat? with
      | some n, _ =>
          let size := (UInt64.ofNat n.natAbs).toFloat32
          pure (if n < 0 then -size else size)
      | none, some x => pure x.toFloat32
      | none, none => failure
  | _ => failure

instance : Coded Decimal where
  encode d := .str d.toText
  decode
    | .str text => lift (Decimal.ofText? text)
    | .num number =>
        match number.toInt? with
        | some n => lift (Decimal.ofInt? n)
        | none => lift (number.toFloat?.bind Decimal.ofFloat?)
    | _ => failure
where
  lift : Option Decimal -> Decode Decimal
    | some d => pure d
    | none => failure

/-!
# Constants
-/

namespace Datum

def toJson (form : SingleForm) : Datum -> Json
  | .null => .str "Null"
  | .bool value => alternative "Bool" (encode value)
  | .int2 value => alternative "Int2" (encode value)
  | .int4 value => alternative "Int4" (encode value)
  | .int8 value => alternative "Int8" (encode value)
  | .float4 value => alternative "Float4" (form.toJson value)
  | .float8 value => alternative "Float8" (floatToJson value)
  | .numeric value => alternative "Numeric" (encode value)
  | .text value => alternative "Text" (encode value)
  | .bytea bytes => alternative "Bytea" (encode bytes)
  | .oid value => alternative "Oid" (encode value)

/-- Read a constant that holds something under the name of its type. -/
def readHolding (name : String) (value : Json) : Decode Datum :=
  match name with
  | "Null" =>
      match value with
      | .null => pure .null
      | _ => failure
  | "Bool" => do return .bool (← decode value)
  | "Int2" => do return .int2 (← decode value)
  | "Int4" => do return .int4 (← decode value)
  | "Int8" => do return .int8 (← decode value)
  | "Float4" => do return .float4 (← readFloat32 value)
  | "Float8" => do return .float8 (← readFloat value)
  | "Numeric" => do return .numeric (← decode value)
  | "Text" => do return .text (← decode value)
  | "Bytea" => do return .bytea (← decode value)
  | "Oid" => do return .oid (← decode value)
  | _ => failure

def read : Json -> Decode Datum :=
  alternatives (fun name => if name == "Null" then some .null else none) readHolding

end Datum

/-!
# Aliases
-/

instance : Coded Alias where
  encode a := ofRecord Alias.fields [encode a.name, encode a.colnames]
  decode := record Alias.fields do
    return { name := ← Fields.next, colnames := ← Fields.next }

end QueryTree
