import QueryTree.Decimal
import QueryTree.Oid

/-!
# Constant values
-/

namespace QueryTree

/-- The value of a constant. -/
inductive Datum where
  | null
  | bool (value : Bool)
  | int2 (value : Int16)
  | int4 (value : Int32)
  | int8 (value : Int64)
  | float4 (value : Float32)
  | float8 (value : Float)
  | numeric (value : Decimal)
  | text (value : String)
  | bytea (bytes : List UInt8)
  | oid (value : Oid)

namespace Datum

def isNull : Datum -> Bool
  | .null => true
  | _ => false

/-- The value of a four-byte integer. -/
def int4? : Datum -> Option Int32
  | .int4 value => some value
  | _ => none

/-- Equality of values: floating-point numbers and decimals are compared as
numbers, everything else as it stands. -/
def same : Datum -> Datum -> Bool
  | .null, .null => true
  | .bool a, .bool b => a == b
  | .int2 a, .int2 b => a == b
  | .int4 a, .int4 b => a == b
  | .int8 a, .int8 b => a == b
  | .float4 a, .float4 b => a == b
  | .float8 a, .float8 b => a == b
  | .numeric a, .numeric b => a.sameValue b
  | .text a, .text b => a == b
  | .bytea a, .bytea b => a == b
  | .oid a, .oid b => a == b
  | _, _ => false

end Datum

end QueryTree
