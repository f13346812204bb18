import QueryTree.Oid
import QueryTree.Named

/-!
# Built-in types

The types every catalog knows: the scalar types first, then their array types.
Each has a fixed number and a name; most scalars have an array type, and the
character types and their arrays carry a collation.
-/

namespace QueryTree

/-- A type that every catalog knows. -/
inductive BuiltinType where
  | bool
  | bytea
  | char
  | name
  | int8
  | int2
  | int4
  | text
  | oid
  | json
  | xml
  | float4
  | float8
  | unknown
  | money
  | bpchar
  | varchar
  | date
  | time
  | timestamp
  | timestamptz
  | interval
  | timetz
  | bit
  | varbit
  | numeric
  | record
  | void
  | uuid
  | jsonb
  | boolArray
  | byteaArray
  | charArray
  | nameArray
  | int2Array
  | int4Array
  | textArray
  | bpcharArray
  | varcharArray
  | int8Array
  | float4Array
  | float8Array
  | oidArray
  | jsonArray
  | xmlArray
  | moneyArray
  | timestampArray
  | dateArray
  | timeArray
  | timestamptzArray
  | intervalArray
  | numericArray
  | timetzArray
  | bitArray
  | varbitArray
  | recordArray
  | uuidArray
  | jsonbArray
deriving DecidableEq, Repr

namespace BuiltinType

instance : Named BuiltinType where
  members :=
    [.bool, .bytea, .char, .name, .int8, .int2, .int4, .text, .oid, .json, .xml,
     .float4, .float8, .unknown, .money, .bpchar, .varchar, .date, .time, .timestamp,
     .timestamptz, .interval, .timetz, .bit, .varbit, .numeric, .record, .void, .uuid,
     .jsonb, .boolArray, .byteaArray, .charArray, .nameArray, .int2Array, .int4Array,
     .textArray, .bpcharArray, .varcharArray, .int8Array, .float4Array, .float8Array,
     .oidArray, .jsonArray, .xmlArray, .moneyArray, .timestampArray, .dateArray,
     .timeArray, .timestamptzArray, .intervalArray, .numericArray, .timetzArray,
     .bitArray, .varbitArray, .recordArray, .uuidArray, .jsonbArray]
  name
    | .bool => "Bool"
    | .bytea => "Bytea"
    | .char => "Char"
    | .name => "Name"
    | .int8 => "Int8"
    | .int2 => "Int2"
    | .int4 => "Int4"
    | .text => "Text"
    | .oid => "Oid"
    | .json => "Json"
    | .xml => "Xml"
    | .float4 => "Float4"
    | .float8 => "Float8"
    | .unknown => "Unknown"
    | .money => "Money"
    | .bpchar => "Bpchar"
    | .varchar => "Varchar"
    | .date => "Date"
    | .time => "Time"
    | .timestamp => "Timestamp"
    | .timestamptz => "Timestamptz"
    | .interval => "Interval"
    | .timetz => "Timetz"
    | .bit => "Bit"
    | .varbit => "Varbit"
    | .numeric => "Numeric"
    | .record => "Record"
    | .void => "Void"
    | .uuid => "Uuid"
    | .jsonb => "Jsonb"
    | .boolArray => "BoolArray"
    | .byteaArray => "ByteaArray"
    | .charArray => "CharArray"
    | .nameArray => "NameArray"
    | .int2Array => "Int2Array"
    | .int4Array => "Int4Array"
    | .textArray => "TextArray"
    | .bpcharArray => "BpcharArray"
    | .varcharArray => "VarcharArray"
    | .int8Array => "Int8Array"
    | .float4Array => "Float4Array"
    | .float8Array => "Float8Array"
    | .oidArray => "OidArray"
    | .jsonArray => "JsonArray"
    | .xmlArray => "XmlArray"
    | .moneyArray => "MoneyArray"
    | .timestampArray => "TimestampArray"
    | .dateArray => "DateArray"
    | .timeArray => "TimeArray"
    | .timestamptzArray => "TimestamptzArray"
    | .intervalArray => "IntervalArray"
    | .numericArray => "NumericArray"
    | .timetzArray => "TimetzArray"
    | .bitArray => "BitArray"
    | .varbitArray => "VarbitArray"
    | .recordArray => "RecordArray"
    | .uuidArray => "UuidArray"
    | .jsonbArray => "JsonbArray"

/-- Every built-in type, scalars first. -/
def all : List BuiltinType := Named.members

/-- The number of a built-in type. -/
def toOid : BuiltinType -> Oid
  | .bool => 16
  | .bytea => 17
  | .char => 18
  | .name => 19
  | .int8 => 20
  | .int2 => 21
  | .int4 => 23
  | .text => 25
  | .oid => 26
  | .json => 114
  | .xml => 142
  | .float4 => 700
  | .float8 => 701
  | .unknown => 705
  | .money => 790
  | .bpchar => 1042
  | .varchar => 1043
  | .date => 1082
  | .time => 1083
  | .timestamp => 1114
  | .timestamptz => 1184
  | .interval => 1186
  | .timetz => 1266
  | .bit => 1560
  | .varbit => 1562
  | .numeric => 1700
  | .record => 2249
  | .void => 2278
  | .uuid => 2950
  | .jsonb => 3802
  | .boolArray => 1000
  | .byteaArray => 1001
  | .charArray => 1002
  | .nameArray => 1003
  | .int2Array => 1005
  | .int4Array => 1007
  | .textArray => 1009
  | .bpcharArray => 1014
  | .varcharArray => 1015
  | .int8Array => 1016
  | .float4Array => 1021
  | .float8Array => 1022
  | .oidArray => 1028
  | .jsonArray => 199
  | .xmlArray => 143
  | .moneyArray => 791
  | .timestampArray => 1115
  | .dateArray => 1182
  | .timeArray => 1183
  | .timestamptzArray => 1185
  | .intervalArray => 1187
  | .numericArray => 1231
  | .timetzArray => 1270
  | .bitArray => 1561
  | .varbitArray => 1563
  | .recordArray => 2287
  | .uuidArray => 2951
  | .jsonbArray => 3807

/-- The name of a built-in type in the system catalog. -/
def typeName : BuiltinType -> String
  | .bool => "bool"
  | .bytea => "bytea"
  | .char => "char"
  | .name => "name"
  | .int8 => "int8"
  | .int2 => "int2"
  | .int4 => "int4"
  | .text => "text"
  | .oid => "oid"
  | .json => "json"
  | .xml => "xml"
  | .float4 => "float4"
  | .float8 => "float8"
  | .unknown => "unknown"
  | .money => "money"
  | .bpchar => "bpchar"
  | .varchar => "varchar"
  | .date => "date"
  | .time => "time"
  | .timestamp => "timestamp"
  | .timestamptz => "timestamptz"
  | .interval => "interval"
  | .timetz => "timetz"
  | .bit => "bit"
  | .varbit => "varbit"
  | .numeric => "numeric"
  | .record => "record"
  | .void => "void"
  | .uuid => "uuid"
  | .jsonb => "jsonb"
  | .boolArray => "_bool"
  | .byteaArray => "_bytea"
  | .charArray => "_char"
  | .nameArray => "_name"
  | .int2Array => "_int2"
  | .int4Array => "_int4"
  | .textArray => "_text"
  | .bpcharArray => "_bpchar"
  | .varcharArray => "_varchar"
  | .int8Array => "_int8"
  | .float4Array => "_float4"
  | .float8Array => "_float8"
  | .oidArray => "_oid"
  | .jsonArray => "_json"
  | .xmlArray => "_xml"
  | .moneyArray => "_money"
  | .timestampArray => "_timestamp"
  | .dateArray => "_date"
  | .timeArray => "_time"
  | .timestamptzArray => "_timestamptz"
  | .intervalArray => "_interval"
  | .numericArray => "_numeric"
  | .timetzArray => "_timetz"
  | .bitArray => "_bit"
  | .varbitArray => "_varbit"
  | .recordArray => "_record"
  | .uuidArray => "_uuid"
  | .jsonbArray => "_jsonb"

/-- The type of arrays over a type.  Arrays of arrays are not separate types, and
the pseudo-types `unknown` and `void` have no arrays. -/
def arrayType? : BuiltinType -> Option BuiltinType
  | .bool => some .boolArray
  | .bytea => some .byteaArray
  | .char => some .charArray
  | .name => some .nameArray
  | .int8 => some .int8Array
  | .int2 => some .int2Array
  | .int4 => some .int4Array
  | .text => some .textArray
  | .oid => some .oidArray
  | .json => some .jsonArray
  | .xml => some .xmlArray
  | .float4 => some .float4Array
  | .float8 => some .float8Array
  | .money => some .moneyArray
  | .bpchar => some .bpcharArray
  | .varchar => some .varcharArray
  | .date => some .dateArray
  | .time => some .timeArray
  | .timestamp => some .timestampArray
  | .timestamptz => some .timestamptzArray
  | .interval => some .intervalArray
  | .timetz => some .timetzArray
  | .bit => some .bitArray
  | .varbit => some .varbitArray
  | .numeric => some .numericArray
  | .record => some .recordArray
  | .uuid => some .uuidArray
  | .jsonb => some .jsonbArray
  | _ => none

/-- The type whose arrays are of this type. -/
def elementType? (type : BuiltinType) : Option BuiltinType :=
  all.find? fun scalar => scalar.arrayType? == some type

/-- Whether values of a type are compared under a collation. -/
def isCollatable : BuiltinType -> Bool
  | .text | .varchar | .bpchar => true
  | .textArray | .varcharArray | .bpcharArray => true
  | _ => false

/-- The built-in type with a given number. -/
def ofOid? (oid : Oid) : Option BuiltinType :=
  all.find? fun type => type.toOid == oid

theorem ofOid?_toOid (type : BuiltinType) : ofOid? type.toOid = some type := by
  cases type <;> decide

end BuiltinType

end QueryTree
