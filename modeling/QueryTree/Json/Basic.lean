import QueryTree.Digits

/-!
# JSON values

A value keeps what the text says: numbers keep their digits, objects keep the
order of their fields and every repetition of a key.  What a number means is
decided where it is used.
-/

namespace QueryTree

/-- A number as it is written. -/
structure Json.Number where
  negative : Bool
  whole : List Digit
  fraction : Option (List Digit)
  /-- Whether the exponent is negative, and its digits. -/
  exponent : Option (Bool × List Digit)
deriving DecidableEq, Repr

inductive Json where
  | null
  | bool (value : Bool)
  | num (number : Json.Number)
  | str (text : String)
  | arr (items : List Json)
  | obj (fields : List (String × Json))
  /-- A string with an escape that names no character, or an object with such a
  key.  It can stand where a value is skipped, and nowhere else. -/
  | malformed

namespace Json

/-!
# Integers
-/

namespace Number

def ofNat (n : Nat) : Number where
  negative := false
  whole := Digits.ofNat n
  fraction := none
  exponent := none

def ofInt : Int -> Number
  | .ofNat n => ofNat n
  | .negSucc n => { ofNat (n + 1) with negative := true }

/-- How far the negative numbers of a signed 64-bit word go. -/
def signedLimit : Nat := 9223372036854775808

/-- The integer a number spells.  Numbers with a fraction or an exponent are not
integers, nor is minus zero, nor what fits neither a signed nor an unsigned
64-bit word. -/
def toInt? (number : Number) : Option Int :=
  match number.fraction, number.exponent with
  | none, none =>
      let size := Digits.toNat number.whole
      if number.negative then
        if size = 0 then none
        else if size <= signedLimit then some (-(size : Int))
        else none
      else if size < UInt64.size then some size
      else none
  | _, _ => none

end Number

def ofInt (n : Int) : Json :=
  .num (Number.ofInt n)

def ofNat (n : Nat) : Json :=
  .num (Number.ofNat n)

/-!
# Objects
-/

/-- The value of the first field with a given key. -/
def field? (key : String) : List (String × Json) -> Option Json
  | [] => none
  | (name, value) :: rest => if name == key then some value else field? key rest

/-- How often a key occurs among the fields of an object. -/
def occurrences (key : String) (fields : List (String × Json)) : Nat :=
  fields.countP fun field => field.1 == key

/-!
# Nesting and repeated keys
-/

mutual

/-- How deeply brackets are nested in a value. -/
def depth : Json -> Nat
  | .null | .bool _ | .num _ | .str _ | .malformed => 0
  | .arr items => 1 + depthItems items
  | .obj fields => 1 + depthFields fields

/-- The depth of the deepest item. -/
def depthItems : List Json -> Nat
  | [] => 0
  | item :: rest => max item.depth (depthItems rest)

/-- The depth of the deepest field value. -/
def depthFields : List (String × Json) -> Nat
  | [] => 0
  | (_, value) :: rest => max value.depth (depthFields rest)

end

mutual

/-- Every object reduced to one field for each key, the last one written. -/
def lastWins : Json -> Json
  | .null => .null
  | .bool value => .bool value
  | .num number => .num number
  | .str text => .str text
  | .arr items => .arr (lastWinsItems items)
  | .obj fields => .obj (lastWinsFields fields)
  | .malformed => .malformed

def lastWinsItems : List Json -> List Json
  | [] => []
  | item :: rest => item.lastWins :: lastWinsItems rest

def lastWinsFields : List (String × Json) -> List (String × Json)
  | [] => []
  | (key, value) :: rest =>
      if rest.any fun field => field.1 == key then lastWinsFields rest
      else (key, value.lastWins) :: lastWinsFields rest

end

end Json

end QueryTree
