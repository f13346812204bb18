/-!
# Decimal digits

A digit string is a list of digits, most significant first.
-/

namespace QueryTree

/-- One decimal digit. -/
abbrev Digit := Fin 10

namespace Digit

def zero : Digit := ⟨0, by decide⟩

/-- The digit a character spells. -/
def ofChar? (c : Char) : Option Digit :=
  let value := c.toNat - '0'.toNat
  if h : value < 10 then
    if '0' <= c then some ⟨value, h⟩ else none
  else none

def toChar (digit : Digit) : Char :=
  Char.ofNat ('0'.toNat + digit.val)

theorem ofChar?_toChar (digit : Digit) : ofChar? digit.toChar = some digit := by
  revert digit
  decide

end Digit

namespace Digits

/-- The number that a digit string spells. -/
def toNat (digits : List Digit) : Nat :=
  digits.foldl (fun value digit => 10 * value + digit.val) 0

/-- The digits of a number, without leading zeros. -/
def ofNat (n : Nat) : List Digit :=
  if h : n < 10 then [⟨n, h⟩]
  else ofNat (n / 10) ++ [⟨n % 10, Nat.mod_lt n (by decide)⟩]

/-- A digit string as text. -/
def toText (digits : List Digit) : String :=
  String.ofList (digits.map Digit.toChar)

theorem toNat_append_singleton (digits : List Digit) (digit : Digit) :
    toNat (digits ++ [digit]) = 10 * toNat digits + digit.val := by
  simp [toNat]

theorem toNat_ofNat (n : Nat) : toNat (ofNat n) = n := by
  induction n using Nat.strongRecOn with
  | ind n ih =>
      rw [ofNat]
      split
      · simp [toNat]
      · rw [toNat_append_singleton, ih (n / 10) (by omega)]
        show 10 * (n / 10) + n % 10 = n
        omega

end Digits

end QueryTree
