import QueryTree.Json.Token

/-!
# From tokens to values

The open brackets are kept on a stack, each with what it holds so far, newest
first.  Every token either opens a bracket, adds to the innermost one, or closes
it; so a text of any nesting is read in one pass.
-/

namespace QueryTree
namespace Json

/-- An open bracket and its contents so far. -/
inductive Frame where
  | array (items : List Json)
  /-- An object, `none` once a key of it was no text. -/
  | object (fields : Option (List (String × Json)))
  /-- An object whose newest key still lacks its value. -/
  | keyed (fields : Option (List (String × Json))) (key : Option String)

/-- What may come next. -/
inductive Expected where
  | value
  | valueOrClose
  | keyOrClose
  | key
  | colon
  | separator

/-- A value in the making. -/
structure Builder where
  frames : List Frame
  expected : Expected
  result : Option Json

namespace Builder

def start : Builder where
  frames := []
  expected := .value
  result := none

/-- Hand a finished value to the innermost bracket. -/
def deliver? (frames : List Frame) (value : Json) : Option Builder :=
  match frames with
  | [] => some { frames := [], expected := .separator, result := some value }
  | .array items :: rest =>
      some { frames := .array (value :: items) :: rest, expected := .separator, result := none }
  | .keyed fields key :: rest =>
      some {
        frames := .object (do return (← key, value) :: (← fields)) :: rest
        expected := .separator
        result := none }
  | .object _ :: _ => none

/-- Close the innermost bracket. -/
def closeArray? (frames : List Frame) : Option Builder :=
  match frames with
  | .array items :: rest => deliver? rest (.arr items.reverse)
  | _ => none

def closeObject? (frames : List Frame) : Option Builder :=
  match frames with
  | .object (some fields) :: rest => deliver? rest (.obj fields.reverse)
  | .object none :: rest => deliver? rest .malformed
  | _ => none

/-- A token where a value may start. -/
def value? (frames : List Frame) : Token -> Option Builder
  | .openObject =>
      some { frames := .object (some []) :: frames, expected := .keyOrClose, result := none }
  | .openArray =>
      some { frames := .array [] :: frames, expected := .valueOrClose, result := none }
  | .null => deliver? frames .null
  | .bool value => deliver? frames (.bool value)
  | .num number => deliver? frames (.num number)
  | .str text => deliver? frames (.str text)
  | .malformed => deliver? frames .malformed
  | .closeObject | .closeArray | .comma | .colon => none

/-- A key of the innermost bracket. -/
def keyed? (frames : List Frame) (key : Option String) : Option Builder :=
  match frames with
  | .object fields :: rest =>
      some { frames := .keyed fields key :: rest, expected := .colon, result := none }
  | _ => none

/-- A token where a key has to stand. -/
def key? (frames : List Frame) : Token -> Option Builder
  | .str key => keyed? frames (some key)
  | .malformed => keyed? frames none
  | _ => none

/-- A token after a finished value. -/
def separator? (frames : List Frame) : Token -> Option Builder
  | .comma =>
      match frames with
      | .array _ :: _ => some { frames, expected := .value, result := none }
      | .object _ :: _ => some { frames, expected := .key, result := none }
      | _ => none
  | .closeArray => closeArray? frames
  | .closeObject => closeObject? frames
  | _ => none

/-- Take one token. -/
def step? (builder : Builder) (token : Token) : Option Builder :=
  let frames := builder.frames
  match builder.expected with
  | .value => value? frames token
  | .valueOrClose =>
      match token with
      | .closeArray => closeArray? frames
      | _ => value? frames token
  | .keyOrClose =>
      match token with
      | .closeObject => closeObject? frames
      | _ => key? frames token
  | .key => key? frames token
  | .colon =>
      match token with
      | .colon => some { builder with expected := .value }
      | _ => none
  | .separator => separator? frames token

end Builder

/-- The value that a list of tokens spells. -/
def ofTokens? (tokens : List Token) : Option Json :=
  (tokens.foldlM Builder.step? Builder.start).bind Builder.result

/-- Read a text that holds one value and nothing else. -/
def parse? (text : String) : Option Json :=
  (Token.scan? text.toList).bind ofTokens?

end Json
end QueryTree
