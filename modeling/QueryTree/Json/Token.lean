import QueryTree.Json.Basic

/-!
# Tokens of JSON text

The text is cut into tokens by an automaton that takes one character at a time.
Between tokens it skips blanks; inside a word, a number or a string it collects
what it has read so far, newest first.  A string may hold half of a surrogate
pair: then it is still one token, but nothing of it is kept.
-/

namespace QueryTree
namespace Json

/-- A token of JSON text. -/
inductive Token where
  | openObject
  | closeObject
  | openArray
  | closeArray
  | comma
  | colon
  | null
  | bool (value : Bool)
  | num (number : Number)
  | str (text : String)
  /-- A string with an escape that names no character. -/
  | malformed
deriving DecidableEq, Repr

/-!
# Numbers in progress

The parts of a number that is still being read have their digits reversed.
-/

namespace Number

/-- The number that has only its sign so far. -/
def start (negative : Bool) : Number where
  negative := negative
  whole := []
  fraction := none
  exponent := none

/-- Read one more digit.  A leading zero stands alone. -/
def digit? (number : Number) (digit : Digit) : Option Number :=
  match number.exponent, number.fraction with
  | some (negative, digits), _ =>
      some { number with exponent := some (negative, digit :: digits) }
  | none, some digits => some { number with fraction := some (digit :: digits) }
  | none, none =>
      if number.whole = [Digit.zero] then none
      else some { number with whole := digit :: number.whole }

/-- Whether every part that was begun has a digit. -/
def isComplete (number : Number) : Bool :=
  !number.whole.isEmpty
    && number.fraction.all (fun digits => !digits.isEmpty)
    && number.exponent.all (fun (_, digits) => !digits.isEmpty)

/-- Begin the fraction. -/
def point? (number : Number) : Option Number :=
  if number.isComplete && number.fraction.isNone && number.exponent.isNone then
    some { number with fraction := some [] }
  else none

/-- Begin the exponent. -/
def mark? (number : Number) : Option Number :=
  if number.isComplete && number.exponent.isNone then
    some { number with exponent := some (false, []) }
  else none

/-- The finished number, its digits in reading order. -/
def finish? (number : Number) : Option Number :=
  if number.isComplete then
    some {
      number with
      whole := number.whole.reverse
      fraction := number.fraction.map List.reverse
      exponent := number.exponent.map fun (negative, digits) => (negative, digits.reverse) }
  else none

end Number

/-!
# Characters
-/

/-- The blanks that may stand between tokens. -/
def isBlank (c : Char) : Bool :=
  c == ' ' || c == '\n' || c == '\t' || c == '\r'

/-- The value of a hexadecimal digit, in either case. -/
def hexDigit? (c : Char) : Option Nat :=
  if '0' <= c && c <= '9' then some (c.toNat - '0'.toNat)
  else if 'a' <= c && c <= 'f' then some (c.toNat - 'a'.toNat + 10)
  else if 'A' <= c && c <= 'F' then some (c.toNat - 'A'.toNat + 10)
  else none

/-- The character of a one-letter escape. -/
def escaped? : Char -> Option Char
  | '"' => some '"'
  | '\\' => some '\\'
  | '/' => some '/'
  | 'b' => some '\x08'
  | 'f' => some '\x0c'
  | 'n' => some '\n'
  | 'r' => some '\r'
  | 't' => some '\t'
  | _ => none

def isHighSurrogate (code : Nat) : Bool :=
  0xD800 <= code && code < 0xDC00

def isLowSurrogate (code : Nat) : Bool :=
  0xDC00 <= code && code < 0xE000

/-- The character that a surrogate pair spells. -/
def ofSurrogates (high low : Nat) : Char :=
  Char.ofNat (0x10000 + (high - 0xD800) * 0x400 + (low - 0xDC00))

/-!
# The automaton
-/

/-- What the scanner is in the middle of. -/
inductive Scanner.Mode where
  | between
  /-- A word, by the letters it still lacks. -/
  | word (missing : List Char) (token : Token)
  | number (number : Number)
  /-- An exponent mark has been read, and a sign may follow. -/
  | marked (number : Number)
  /-- A string, `none` once an escape in it named no character. -/
  | text (read : Option (List Char))
  /-- A backslash has been read. -/
  | escape (read : Option (List Char))
  /-- Digits of a code unit, with the high surrogate it may complete. -/
  | code (read : Option (List Char)) (high : Option Nat) (digits : Nat) (value : Nat)
  /-- A high surrogate has been read: a backslash should follow. -/
  | lowEscape (read : Option (List Char)) (high : Nat)
  /-- Then the letter of a code unit. -/
  | lowLetter (read : Option (List Char)) (high : Nat)

/-- A scanner holds the tokens read so far, newest first. -/
structure Scanner where
  tokens : List Token
  mode : Scanner.Mode

namespace Scanner

def start : Scanner where
  tokens := []
  mode := .between

def emit (tokens : List Token) (token : Token) : Option Scanner :=
  some { tokens := token :: tokens, mode := .between }

/-- The first character of a token, or a blank. -/
def begin? (tokens : List Token) (c : Char) : Option Scanner :=
  if isBlank c then some { tokens, mode := .between }
  else if c == '\x7b' then emit tokens .openObject
  else if c == '\x7d' then emit tokens .closeObject
  else if c == '[' then emit tokens .openArray
  else if c == ']' then emit tokens .closeArray
  else if c == ',' then emit tokens .comma
  else if c == ':' then emit tokens .colon
  else if c == '"' then some { tokens, mode := .text (some []) }
  else if c == '-' then some { tokens, mode := .number (Number.start true) }
  else if c == 'n' then some { tokens, mode := .word ['u', 'l', 'l'] .null }
  else if c == 't' then some { tokens, mode := .word ['r', 'u', 'e'] (.bool true) }
  else if c == 'f' then some { tokens, mode := .word ['a', 'l', 's', 'e'] (.bool false) }
  else
    match Digit.ofChar? c with
    | some digit =>
        some { tokens, mode := .number { Number.start false with whole := [digit] } }
    | none => none

/-- One more digit of a number, or the end of it. -/
def numberStep? (tokens : List Token) (number : Number) (c : Char) : Option Scanner :=
  match Digit.ofChar? c with
  | some digit => (number.digit? digit).map fun longer => { tokens, mode := .number longer }
  | none =>
      if c == '.' then number.point?.map fun longer => { tokens, mode := .number longer }
      else if c == 'e' || c == 'E' then
        number.mark?.map fun longer => { tokens, mode := .marked longer }
      else
        match number.finish? with
        | some finished => begin? (.num finished :: tokens) c
        | none => none

/-- The string token that was read. -/
def stringToken : Option (List Char) -> Token
  | some read => .str (String.ofList read.reverse)
  | none => .malformed

/-- A character of a string. -/
def textStep? (tokens : List Token) (read : Option (List Char)) (c : Char) : Option Scanner :=
  if c == '"' then emit tokens (stringToken read)
  else if c == '\\' then some { tokens, mode := .escape read }
  else if c.toNat < 0x20 then none
  else some { tokens, mode := .text (read.map (c :: ·)) }

/-- The character after a backslash. -/
def escapeStep? (tokens : List Token) (read : Option (List Char)) (c : Char) : Option Scanner :=
  if c == 'u' then some { tokens, mode := .code read none 0 0 }
  else (escaped? c).map fun char => { tokens, mode := .text (read.map (char :: ·)) }

/-- What follows a complete code unit: it is a character, or half of a surrogate
pair, and the halves have to come in order. -/
def codeUnit (read : Option (List Char)) (high : Option Nat) (unit : Nat) : Mode :=
  match high with
  | some high =>
      if isLowSurrogate unit then .text (read.map (ofSurrogates high unit :: ·)) else .text none
  | none =>
      if isHighSurrogate unit then .lowEscape read unit
      else if isLowSurrogate unit then .text none
      else .text (read.map (Char.ofNat unit :: ·))

/-- Take one character. -/
def step? (scanner : Scanner) (c : Char) : Option Scanner :=
  let tokens := scanner.tokens
  match scanner.mode with
  | .between => begin? tokens c
  | .word missing token =>
      match missing with
      | [] => none
      | [last] => if c == last then emit tokens token else none
      | next :: rest => if c == next then some { tokens, mode := .word rest token } else none
  | .number number => numberStep? tokens number c
  | .marked number =>
      if c == '+' then some { tokens, mode := .number number }
      else if c == '-' then
        some { tokens, mode := .number { number with exponent := some (true, []) } }
      else
        match Digit.ofChar? c with
        | some digit => (number.digit? digit).map fun longer => { tokens, mode := .number longer }
        | none => none
  | .text read => textStep? tokens read c
  | .escape read => escapeStep? tokens read c
  | .code read high digits value =>
      match hexDigit? c with
      | none => none
      | some digit =>
          let value := 16 * value + digit
          if digits == 3 then some { tokens, mode := codeUnit read high value }
          else some { tokens, mode := .code read high (digits + 1) value }
  | .lowEscape read high =>
      if c == '\\' then some { tokens, mode := .lowLetter read high }
      else textStep? tokens none c
  | .lowLetter read high =>
      if c == 'u' then some { tokens, mode := .code read (some high) 0 0 }
      else escapeStep? tokens none c

/-- The tokens of a text that ends here. -/
def finish? (scanner : Scanner) : Option (List Token) :=
  match scanner.mode with
  | .between => some scanner.tokens.reverse
  | .number number =>
      number.finish?.map fun finished => (.num finished :: scanner.tokens).reverse
  | _ => none

end Scanner

namespace Token

/-- Cut a text into tokens. -/
def scan? (text : List Char) : Option (List Token) :=
  (text.foldlM Scanner.step? Scanner.start).bind Scanner.finish?

end Token

end Json
end QueryTree
