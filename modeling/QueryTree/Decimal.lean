import QueryTree.Shortest

/-!
# Exact decimals

A decimal is a signed 96-bit coefficient with up to 28 places after the point.
The places are part of the value as it is written (`1.0` is not written as
`1.00`) and no part of it as a number.
-/

namespace QueryTree

/-- Coefficients have 96 bits: they stay below two to that power. -/
def Decimal.limit : Nat := 79228162514264337593543950336

/-- A decimal number together with the number of places it is written with. -/
structure Decimal where
  negative : Bool
  coefficient : Nat
  /-- How many digits stand after the point. -/
  scale : Nat
  coefficient_lt : coefficient < Decimal.limit
  scale_le : scale <= 28
deriving DecidableEq, Repr

namespace Decimal

/-- A decimal from its parts, if they are within bounds. -/
def ofParts? (negative : Bool) (coefficient scale : Nat) : Option Decimal :=
  if h : coefficient < limit ∧ scale <= 28 then
    some { negative, coefficient, scale, coefficient_lt := h.left, scale_le := h.right }
  else none

/-- A decimal from its parts, where zero has no sign. -/
def mk? (negative : Bool) (coefficient scale : Nat) : Option Decimal :=
  ofParts? (negative && coefficient != 0) coefficient scale

def ofInt? (n : Int) : Option Decimal :=
  mk? (decide (n < 0)) n.natAbs 0

/-!
# Value
-/

/-- The coefficient with its sign. -/
def signed (d : Decimal) : Int :=
  if d.negative then -(d.coefficient : Int) else d.coefficient

/-- Whether two decimals are the same number. -/
def sameValue (a b : Decimal) : Bool :=
  a.signed * Nat.pow 10 b.scale == b.signed * Nat.pow 10 a.scale

/-!
# Writing
-/

/-- The digits of a number, with zeros in front up to a given length. -/
def padded (length n : Nat) : List Digit :=
  let digits := Digits.ofNat n
  List.replicate (length - digits.length) Digit.zero ++ digits

def toText (d : Decimal) : String :=
  let digits := padded (d.scale + 1) d.coefficient
  let places := digits.length - d.scale
  let sign := if d.negative then "-" else ""
  if d.scale = 0 then sign ++ Digits.toText digits
  else sign ++ Digits.toText (digits.take places) ++ "." ++ Digits.toText (digits.drop places)

/-!
# Reading plain notation
-/

/-- The digits of a decimal read so far. -/
structure Progress where
  /-- Whether the point has been read. -/
  point : Bool
  /-- Whether any digit has been read. -/
  any : Bool
  /-- Whether the digits before the last one filled a 64-bit word, or nearly. -/
  wide : Bool
  coefficient : Nat
  scale : Nat

namespace Progress

def start : Progress where
  point := false
  any := false
  wide := false
  coefficient := 0
  scale := 0

/-- From here on a coefficient is taken not to fit 64 bits with one more digit. -/
def wideFrom : Nat := 1844674407370954906

def push (p : Progress) (digit : Digit) : Progress where
  point := p.point
  any := true
  wide := decide (wideFrom <= p.coefficient)
  coefficient := 10 * p.coefficient + digit.val
  scale := if p.point then p.scale + 1 else p.scale

/-- Whether no further place can be kept. -/
def isFull (p : Progress) : Bool :=
  p.point && 28 <= p.scale

/-- End a decimal at a digit that cannot be kept: five and above round away from
zero, at the cost of one more place when the coefficient is at its limit. -/
def round? (negative : Bool) (p : Progress) (digit : Digit) : Option Decimal :=
  if digit.val < 5 then mk? negative p.coefficient p.scale
  else if p.coefficient + 1 < limit then mk? negative (p.coefficient + 1) p.scale
  else if p.scale = 0 then none
  else mk? negative ((p.coefficient + 5) / 10) (p.scale - 1)

end Progress

/-- What may follow the digits that count: more digits and underscores. -/
def isTail (text : List Char) : Bool :=
  text.all fun c => (Digit.ofChar? c).isSome || c == '_'

/-- Read digits with at most one point.  An underscore may stand after the first
digit.  A digit that does not fit before the point is an error; after the point
it rounds the decimal, and nothing that follows it counts.  An underscore in the
place of the rounding digit stands for zero, unless the coefficient is a wide
one: then the digit behind it rounds. -/
def readDigits (negative : Bool) (p : Progress) : List Char -> Option Decimal
  | [] => if p.any then mk? negative p.coefficient p.scale else none
  | c :: rest =>
      match Digit.ofChar? c with
      | some digit =>
          if !p.isFull && decide ((p.push digit).coefficient < limit) then
            readDigits negative (p.push digit) rest
          else if p.point && isTail rest then p.round? negative digit
          else none
      | none =>
          if c == '.' && !p.point then readDigits negative { p with point := true } rest
          else if c == '_' && p.any then
            if p.isFull && !p.wide then
              if isTail rest then mk? negative p.coefficient p.scale else none
            else readDigits negative p rest
          else none

/-- Read a decimal in plain notation, with an optional sign. -/
def ofPlain? : List Char -> Option Decimal
  | '-' :: rest => readDigits true .start rest
  | '+' :: rest => readDigits false .start rest
  | text => readDigits false .start text

/-!
# Reading scientific notation
-/

/-- A count that fits 32 bits, with an optional plus sign. -/
def readCount? (text : List Char) : Option Nat :=
  let digits := match text with
    | '+' :: rest => rest
    | _ => text
  match digits.mapM Digit.ofChar? with
  | some (first :: rest) =>
      let value := Digits.toNat (first :: rest)
      if value < UInt32.size then some value else none
  | _ => none

/-- Multiply by a power of ten.  Places are used up first, then the coefficient
grows. -/
def shiftUp? (d : Decimal) (power : Nat) : Option Decimal :=
  if power <= d.scale then mk? d.negative d.coefficient (d.scale - power)
  else if power <= 28 then mk? d.negative (d.coefficient * Nat.pow 10 (power - d.scale)) 0
  else none

/-- A coefficient without its last digits, rounded away from zero from five on. -/
def dropDigits (coefficient : Nat) : Nat -> Nat
  | 0 => coefficient
  | count + 1 =>
      let kept := coefficient / Nat.pow 10 count
      kept / 10 + (if 5 <= kept % 10 then 1 else 0)

/-- Divide by a power of ten, by adding places.  Places beyond the last one are
rounded away, and the sign stays even if nothing else does. -/
def shiftDown? (d : Decimal) (power : Nat) : Option Decimal :=
  if power <= 28 then
    let excess := d.scale + power - 28
    ofParts? d.negative (dropDigits d.coefficient excess) (d.scale + power - excess)
  else none

def ofScientific? (text : List Char) : Option Decimal :=
  let isMark (c : Char) : Bool := c == 'e' || c == 'E'
  match text.dropWhile fun c => !isMark c with
  | [] => none
  | _ :: power =>
      match ofPlain? (text.takeWhile fun c => !isMark c) with
      | none => none
      | some d =>
          match power with
          | '-' :: digits => (readCount? digits).bind d.shiftDown?
          | digits => (readCount? digits).bind d.shiftUp?

/-- Read a decimal in plain notation, else in scientific notation. -/
def ofText? (text : String) : Option Decimal :=
  match ofPlain? text.toList with
  | some d => some d
  | none => ofScientific? text.toList

/-!
# From floating point
-/

/-- A decimal written out with all its zeros. -/
def positional (negative : Bool) (decimal : Scientific) : List Char :=
  let digits := Digits.ofNat decimal.coefficient
  let point : Int := digits.length + decimal.exponent
  let sign := if negative then ['-'] else []
  let spelled (digits : List Digit) : List Char := digits.map Digit.toChar
  if 0 <= decimal.exponent then
    sign ++ spelled (digits ++ List.replicate decimal.exponent.toNat Digit.zero)
  else if 0 < point then
    sign ++ spelled (digits.take point.toNat) ++ '.' :: spelled (digits.drop point.toNat)
  else
    sign ++ '0' :: '.' :: spelled (List.replicate (-point).toNat Digit.zero ++ digits)

/-- The decimal with the fewest digits that reads back as a double, the larger one
of two that are equally near. -/
def ofFloat? (x : Float) : Option Decimal :=
  match Binary.ofFloat? x with
  | some binary => ofPlain? (positional (Binary.isNegative x) (binary.shortest .up))
  | none => mk? false 0 0

end Decimal

end QueryTree
