import QueryTree.Json.Float
import QueryTree.Json.Reader
import QueryTree.Named
import QueryTree.Oid

/-!
# Typed values in JSON

A record is written as an object with one field for each of its names, in
declaration order; it may also be read from the bare list of its values.  A
choice between named alternatives is written as the name alone, or as an object
whose one key is the name and whose value is what the alternative holds.

Reading keeps count of the brackets it may still open, so that a limit on
nesting only concerns what is read: a field with an unknown name is skipped
whatever it holds.
-/

namespace QueryTree
namespace Json

/-- What a typed reading allows. -/
structure Rules where
  /-- How many more brackets may be opened, one inside the other. -/
  room : Nat
  /-- Whether the record of an alternative may be a bare list of values. -/
  bareAlternatives : Bool

/-- A reading that may fail. -/
abbrev Decode := ReaderT Rules Option

namespace Decode

/-- Read what stands inside a bracket. -/
def enter {α : Type} (inside : Decode α) : Decode α := fun rules =>
  match rules.room with
  | 0 => none
  | room + 1 => inside { rules with room }

/-- Close the recursion of a reading that opens a bracket before it reads a
value of its own kind.  The brackets that may still be opened bound it. -/
def nested {α : Type} (step : (Json -> Decode α) -> Json -> Decode α) (value : Json) :
    Decode α := fun rules =>
  bounded (rules.room + 1) value rules
where
  bounded : Nat -> Json -> Decode α
    | 0, _ => failure
    | fuel + 1, value => step (bounded fuel) value

end Decode

/-- A type with a written form. -/
class Coded (α : Type) where
  encode : α -> Json
  decode : Json -> Decode α
  /-- What a record field of this type means when it is missing. -/
  absent : Option α := none

export Coded (encode decode)

/-!
# Records
-/

/-- Write a record from its field names and the values in the same order. -/
def ofRecord (names : List String) (values : List Json) : Json :=
  .obj (names.zip values)

/-- The values of a record in the order of its names, `none` for a missing one.
A name must not occur twice, and a bare list must be complete. -/
def recordValues (names : List String) : Json -> Option (List (Option Json))
  | .obj fields =>
      if names.all fun name => occurrences name fields <= 1 then
        some (names.map fun name => field? name fields)
      else none
  | .arr values => if values.length = names.length then some (values.map some) else none
  | _ => none

/-- Reads the values of a record one after the other. -/
abbrev Fields := StateT (List (Option Json)) Decode

namespace Fields

/-- The next value, read by a given reading. -/
def nextBy {α : Type} (read : Json -> Decode α) (absent : Option α) : Fields α := fun values =>
  match values with
  | [] => failure
  | some value :: rest => do
      let x ← read value
      return (x, rest)
  | none :: rest =>
      match absent with
      | some x => pure (x, rest)
      | none => failure

/-- The next value, of a type with a written form. -/
def next {α : Type} [Coded α] : Fields α :=
  nextBy decode Coded.absent

/-- The next value has to be there. -/
def one {α : Type} (read : Json -> Decode α) : Fields α :=
  nextBy read none

/-- The next value is a list. -/
def many {α : Type} (read : Json -> Decode α) : Fields (List α) :=
  nextBy (fun value =>
    match value with
    | .arr items => Decode.enter (items.mapM read)
    | _ => failure) none

/-- The next value may be missing or null. -/
def opt {α : Type} (read : Json -> Decode α) : Fields (Option α) :=
  nextBy (fun value =>
    match value with
    | .null => pure none
    | value => do return some (← read value)) (some none)

end Fields

/-- Read a record by its field names. -/
def record {α : Type} (names : List String) (fields : Fields α) (value : Json) : Decode α :=
  match recordValues names value with
  | none => failure
  | some values => Decode.enter do
      let (x, _) ← fields values
      return x

/-- Read the record of an alternative, which may be a bare list only where the
rules say so. -/
def alternativeRecord {α : Type} (names : List String) (fields : Fields α) (value : Json) :
    Decode α := do
  match value with
  | .arr _ => if (← read).bareAlternatives then record names fields value else failure
  | _ => record names fields value

/-!
# Alternatives
-/

/-- Write an alternative that holds a value. -/
def alternative (name : String) (value : Json) : Json :=
  .obj [(name, value)]

/-- Read an alternative: its name, and the value it holds.  The name alone holds
nothing, which an object may also say with null. -/
def alternatives {α : Type} (bare : String -> Option α)
    (holding : String -> Json -> Decode α) : Json -> Decode α
  | .str name => liftOption (bare name)
  | .obj [(name, value)] => Decode.enter (holding name value)
  | _ => failure
where
  liftOption : Option α -> Decode α
    | some x => pure x
    | none => failure

/-- Read a member of a finite type by its name. -/
def named {α : Type} [Named α] : Json -> Decode α :=
  alternatives Named.ofName? fun name value =>
    match value, Named.ofName? name with
    | .null, some member => pure member
    | _, _ => failure

/-!
# Leaves
-/

instance {α : Type} [Named α] : Coded α where
  encode member := .str (Named.name member)
  decode := named

instance : Coded Bool where
  encode := .bool
  decode
    | .bool value => pure value
    | _ => failure

instance : Coded String where
  encode := .str
  decode
    | .str text => pure text
    | _ => failure

instance : Coded Char where
  encode c := .str c.toString
  decode
    | .str text =>
        match text.toList with
        | [c] => pure c
        | _ => failure
    | _ => failure

/-- Read an integer. -/
def integer : Json -> Decode Int
  | .num number =>
      match number.toInt? with
      | some n => pure n
      | none => failure
  | _ => failure

/-- Read a number below a bound. -/
def natBelow (bound : Nat) (value : Json) : Decode Nat := do
  match ← integer value with
  | .ofNat n => if n < bound then pure n else failure
  | .negSucc _ => failure

/-- Read an integer between two bounds. -/
def intBetween (low high : Int) (value : Json) : Decode Int := do
  let n ← integer value
  if low <= n && n <= high then pure n else failure

instance : Coded UInt8 where
  encode n := ofNat n.toNat
  decode value := do return UInt8.ofNat (← natBelow UInt8.size value)

instance : Coded UInt32 where
  encode n := ofNat n.toNat
  decode value := do return UInt32.ofNat (← natBelow UInt32.size value)

instance : Coded UInt64 where
  encode n := ofNat n.toNat
  decode value := do return UInt64.ofNat (← natBelow UInt64.size value)

instance : Coded Int16 where
  encode n := ofInt n.toInt
  decode value := do
    return Int16.ofInt (← intBetween Int16.minValue.toInt Int16.maxValue.toInt value)

instance : Coded Int32 where
  encode n := ofInt n.toInt
  decode value := do
    return Int32.ofInt (← intBetween Int32.minValue.toInt Int32.maxValue.toInt value)

instance : Coded Int64 where
  encode n := ofInt n.toInt
  decode value := do
    return Int64.ofInt (← intBetween Int64.minValue.toInt Int64.maxValue.toInt value)

instance {α : Type} [Coded α] : Coded (Option α) where
  encode
    | none => .null
    | some x => encode x
  decode
    | .null => pure none
    | value => do return some (← decode value)
  absent := some none

instance {α : Type} [Coded α] : Coded (List α) where
  encode items := .arr (items.map encode)
  decode
    | .arr items => Decode.enter (items.mapM decode)
    | _ => failure

/-!
# Whole values
-/

/-- Rules that allow a value to be read however deep it is. -/
def Rules.roomFor (value : Json) : Rules where
  room := value.depth
  bareAlternatives := false

/-- Rules for a value read from text, where at most 127 brackets nest. -/
def Rules.text : Rules where
  room := 127
  bareAlternatives := true

/-- Read a value that is already in memory. -/
def decode? {α : Type} (read : Json -> Decode α) (value : Json) : Option α :=
  read value (Rules.roomFor value)

/-- Read a value from its text. -/
def decodeText? {α : Type} (read : Json -> Decode α) (text : String) : Option α :=
  (parse? text).bind fun value => read value Rules.text

end Json
end QueryTree
