import QueryTree.Json.Basic

/-!
# JSON text

Two layouts of the same value: the compact one has no blanks at all, the pretty
one puts every item and field on a line of its own, two blanks deeper than its
bracket.  Empty brackets stay on one line in both.  The writers append to the
text written so far.
-/

namespace QueryTree
namespace Json

/-!
# Leaves
-/

/-- A hexadecimal digit, in lower case. -/
def hexChar (value : Nat) : Char :=
  if value < 10 then Char.ofNat ('0'.toNat + value) else Char.ofNat ('a'.toNat + value - 10)

/-- How a character is written inside a string: quotes, backslashes and control
characters are escaped, everything else stands for itself. -/
def escape (c : Char) : String :=
  if c == '"' then "\\\""
  else if c == '\\' then "\\\\"
  else if c == '\n' then "\\n"
  else if c == '\r' then "\\r"
  else if c == '\t' then "\\t"
  else if c == '\x08' then "\\b"
  else if c == '\x0c' then "\\f"
  else if c.toNat < 0x20 then
    String.ofList ['\\', 'u', '0', '0', hexChar (c.toNat / 16), hexChar (c.toNat % 16)]
  else c.toString

def writeString (out : String) (text : String) : String :=
  text.toList.foldl (fun out c => out ++ escape c) (out ++ "\"") ++ "\""

/-- Half of a surrogate pair: a string that names no character. -/
def malformedText : String :=
  "\"\\ud800\""

/-- The digits as they stand.  An exponent always shows its sign. -/
def Number.toText (number : Number) : String :=
  let sign := if number.negative then "-" else ""
  let fraction :=
    match number.fraction with
    | some digits => "." ++ Digits.toText digits
    | none => ""
  let exponent :=
    match number.exponent with
    | some (negative, digits) => (if negative then "e-" else "e+") ++ Digits.toText digits
    | none => ""
  sign ++ Digits.toText number.whole ++ fraction ++ exponent

/-!
# The compact layout
-/

mutual

def write (out : String) : Json -> String
  | .null => out ++ "null"
  | .bool true => out ++ "true"
  | .bool false => out ++ "false"
  | .num number => out ++ number.toText
  | .str text => writeString out text
  | .malformed => out ++ malformedText
  | .arr items => writeItems (out ++ "[") items ++ "]"
  | .obj fields => writeFields (out ++ "\x7b") fields ++ "\x7d"

def writeItems (out : String) : List Json -> String
  | [] => out
  | [item] => write out item
  | item :: rest => writeItems (write out item ++ ",") rest

def writeFields (out : String) : List (String × Json) -> String
  | [] => out
  | [(key, value)] => write (writeString out key ++ ":") value
  | (key, value) :: rest =>
      writeFields (write (writeString out key ++ ":") value ++ ",") rest

end

/-- The text of a value without any blanks. -/
def compact (value : Json) : String :=
  write "" value

/-!
# The pretty layout
-/

/-- A new line, indented to a given depth. -/
def newLine (out : String) : Nat -> String
  | 0 => out ++ "\n"
  | depth + 1 => newLine out depth ++ "  "

mutual

def writePretty (depth : Nat) (out : String) : Json -> String
  | .null => out ++ "null"
  | .bool true => out ++ "true"
  | .bool false => out ++ "false"
  | .num number => out ++ number.toText
  | .str text => writeString out text
  | .malformed => out ++ malformedText
  | .arr [] => out ++ "[]"
  | .arr items => newLine (writePrettyItems (depth + 1) (out ++ "[") items) depth ++ "]"
  | .obj [] => out ++ "\x7b\x7d"
  | .obj fields =>
      newLine (writePrettyFields (depth + 1) (out ++ "\x7b") fields) depth ++ "\x7d"

def writePrettyItems (depth : Nat) (out : String) : List Json -> String
  | [] => out
  | [item] => writePretty depth (newLine out depth) item
  | item :: rest =>
      writePrettyItems depth (writePretty depth (newLine out depth) item ++ ",") rest

def writePrettyFields (depth : Nat) (out : String) : List (String × Json) -> String
  | [] => out
  | [(key, value)] =>
      writePretty depth (writeString (newLine out depth) key ++ ": ") value
  | (key, value) :: rest =>
      writePrettyFields depth
        (writePretty depth (writeString (newLine out depth) key ++ ": ") value ++ ",") rest

end

/-- The text of a value, a line for each item. -/
def pretty (value : Json) : String :=
  writePretty 0 "" value

end Json
end QueryTree
