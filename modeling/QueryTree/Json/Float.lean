import QueryTree.Json.Basic
import QueryTree.Shortest

/-!
# Floating-point numbers in JSON

Writing takes the fewest digits that read back and keeps a point or an exponent,
so that a float never looks like an integer.  Reading collects the digits into a
64-bit significand, drops those that no longer fit, and scales the result by a
power of ten in floating point.
-/

namespace QueryTree
namespace Json
namespace Number

/-!
# Writing
-/

/-- Where positional notation ends: the decimal point may stand at most
`lastPoint` digits after the first digit, and fewer than `zeros` zeros may
follow a leading point. -/
structure PointRange where
  lastPoint : Int
  zeros : Int

def PointRange.double : PointRange := { lastPoint := 16, zeros := 5 }

def PointRange.single : PointRange := { lastPoint := 13, zeros := 6 }

/-- A decimal with a point inside the range, in scientific notation outside. -/
def ofScientific (range : PointRange) (negative : Bool) (decimal : Scientific) : Number :=
  let digits := Digits.ofNat decimal.coefficient
  let point : Int := digits.length + decimal.exponent
  if 0 <= decimal.exponent && point <= range.lastPoint then
    { negative
      whole := digits ++ List.replicate decimal.exponent.toNat Digit.zero
      fraction := some [Digit.zero]
      exponent := none }
  else if 0 < point && point <= range.lastPoint then
    { negative
      whole := digits.take point.toNat
      fraction := some (digits.drop point.toNat)
      exponent := none }
  else if -range.zeros < point && point <= 0 then
    { negative
      whole := [Digit.zero]
      fraction := some (List.replicate (-point).toNat Digit.zero ++ digits)
      exponent := none }
  else
    { negative
      whole := digits.take 1
      fraction := if digits.length = 1 then none else some (digits.drop 1)
      exponent := some (decide (point - 1 < 0), Digits.ofNat (point - 1).natAbs) }

/-- Zero with its sign. -/
def zero (negative : Bool) : Number where
  negative := negative
  whole := [Digit.zero]
  fraction := some [Digit.zero]
  exponent := none

/-- A finite double. -/
def ofFloat (x : Float) : Number :=
  let negative := Binary.isNegative x
  match Binary.ofFloat? x with
  | some binary => ofScientific .double negative (binary.shortest .even)
  | none => zero negative

/-- A finite single, in the digits that a single needs. -/
def ofFloat32 (x : Float32) : Number :=
  let negative := Binary.isNegative32 x
  match Binary.ofFloat32? x with
  | some binary => ofScientific .single negative (binary.shortest .even)
  | none => zero negative

/-!
# Reading
-/

/-- Digits collected into a 64-bit word, and the power of ten they lack. -/
structure Significand where
  value : Nat
  exponent : Int
  /-- Set when a digit no longer fitted; all later ones are dropped. -/
  full : Bool

def Significand.zero : Significand := { value := 0, exponent := 0, full := false }

namespace Significand

/-- A digit before the point.  One that is dropped still counts as a place. -/
def wholeDigit (s : Significand) (digit : Digit) : Significand :=
  let next := 10 * s.value + digit.val
  if s.full || UInt64.size <= next then { s with exponent := s.exponent + 1, full := true }
  else { s with value := next }

/-- A digit after the point. -/
def fractionDigit (s : Significand) (digit : Digit) : Significand :=
  let next := 10 * s.value + digit.val
  if s.full || UInt64.size <= next then { s with full := true }
  else { s with value := next, exponent := s.exponent - 1 }

/-- Scale by one power of ten at a time, as far as doubles reach; `none` when the
result is too large. -/
def scale? (f : Float) (exponent : Int) : Nat -> Option Float
  | 0 => some f
  | steps + 1 =>
      if exponent.natAbs <= 308 then
        let power := Float.ofScientific 1 false exponent.natAbs
        if 0 <= exponent then
          let scaled := f * power
          if scaled.isInf then none else some scaled
        else some (f / power)
      else if f == 0.0 then some f
      else if 0 <= exponent then none
      else scale? (f / 1e308) (exponent + 308) steps

/-- The double that a significand spells.  Once a double has been divided by ten
to the 308th three times over it is zero. -/
def toFloat? (s : Significand) : Option Float :=
  scale? (UInt64.ofNat s.value).toFloat s.exponent 8

end Significand

/-- The largest exponent that is told from larger ones. -/
def largestExponent : Nat := 2147483647

/-- The exponent of a number, held to what a 32-bit word can count. -/
def writtenExponent (number : Number) : Int :=
  match number.exponent with
  | none => 0
  | some (negative, digits) =>
      let size : Int := min (Digits.toNat digits) largestExponent
      if negative then -size else size

/-- The digits of a number as a significand. -/
def significand (number : Number) : Significand :=
  let whole := number.whole.foldl Significand.wholeDigit Significand.zero
  (number.fraction.getD []).foldl Significand.fractionDigit { whole with full := false }

/-- The double that a number spells, `none` when it is too large. -/
def toFloat? (number : Number) : Option Float :=
  let digits := number.significand
  let scaled := { digits with exponent := digits.exponent + number.writtenExponent }
  scaled.toFloat?.map fun f => if number.negative then -f else f

end Number
end Json
end QueryTree
