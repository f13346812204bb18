import QueryTree.Digits

/-!
# The fewest digits that read back

A binary floating-point number is `m * 2 ^ q`.  The reals that round to it form
an interval around it: half a step to either side, only a quarter of a step
below when `m` is the least mantissa of its exponent, with the ends included
when `m` is even.  Its short form is the point of that interval on the coarsest
decimal grid that has one, and of two such points the nearer.
-/

namespace QueryTree

/-- A decimal: a coefficient times a power of ten. -/
structure Scientific where
  coefficient : Nat
  exponent : Int
deriving DecidableEq, Repr

/-- Which of two decimals stands for a number that is equally near to both. -/
inductive Tie where
  /-- The one with an even last digit. -/
  | even
  /-- The larger one. -/
  | up
deriving DecidableEq, Repr

/-- A positive binary floating-point number `mantissa * 2 ^ exponent`. -/
structure Binary where
  mantissa : Nat
  exponent : Int
  /-- Whether the next number below is only half as far away as the next above. -/
  narrowBelow : Bool
deriving DecidableEq, Repr

namespace Binary

/-- `numerator * 2 ^ (exponent - 2)` and `10 ^ grid` over a common denominator:
the factors that turn quarter steps and grid points into comparable numbers. -/
def factors (number : Binary) (grid : Int) : Nat × Nat :=
  let twos := number.exponent - 2
  (Nat.pow 2 twos.toNat * Nat.pow 10 (-grid).toNat,
    Nat.pow 10 grid.toNat * Nat.pow 2 (-twos).toNat)

/-- The point of the decimal grid `10 ^ grid` that stands for the number, if the
grid is fine enough to have one. -/
def onGrid? (tie : Tie) (number : Binary) (grid : Int) : Option Nat :=
  let (quarter, point) := number.factors grid
  let value := 4 * number.mantissa * quarter
  let low := value - (if number.narrowBelow then 1 else 2) * quarter
  let high := value + 2 * quarter
  let closed := number.mantissa % 2 == 0
  let inside (candidate : Nat) : Bool :=
    let position := candidate * point
    if closed then low <= position && position <= high
    else low < position && position < high
  let below := value / point
  let above := below + 1
  if inside below && below != 0 then
    if inside above then
      let downward := value - below * point
      let upward := above * point - value
      if downward < upward then some below
      else if upward < downward then some above
      else if tie = .even ∧ below % 2 = 0 then some below
      else some above
    else some below
  else if inside above then some above
  else none

/-- The grid at which the search starts: coarser than the number itself. -/
def coarsestGrid (number : Binary) : Int :=
  (number.exponent + (number.mantissa.log2 : Int) + 1) * 30103 / 100000 + 1

/-- The first grid with a point, going from coarse to fine. -/
def search (tie : Tie) (number : Binary) (grid : Int) : Nat -> Scientific
  | 0 => { coefficient := 0, exponent := grid }
  | steps + 1 =>
      match number.onGrid? tie grid with
      | some coefficient => { coefficient, exponent := grid }
      | none => number.search tie (grid - 1) steps

/-- The shortest decimal that reads back as the number. -/
def shortest (tie : Tie) (number : Binary) : Scientific :=
  number.search tie number.coarsestGrid 24

end Binary

/-!
# Bit patterns
-/

namespace Binary

/-- Read a sign-less bit pattern with `fieldBits` mantissa bits whose exponents
count from `bias`; `none` for zero. -/
def ofBits? (fieldBits : Nat) (bias : Int) (bits : Nat) : Option Binary :=
  let hidden := Nat.pow 2 fieldBits
  let field := bits % hidden
  let level := bits / hidden
  if level == 0 then
    if field == 0 then none
    else some { mantissa := field, exponent := 1 - bias, narrowBelow := false }
  else
    some {
      mantissa := hidden + field
      exponent := (level : Int) - bias
      narrowBelow := field == 0 && level != 1 }

/-- Whether the sign bit of a double is set. -/
def isNegative (x : Float) : Bool :=
  x.toBits &&& 0x8000000000000000 != 0

/-- Whether the sign bit of a single is set. -/
def isNegative32 (x : Float32) : Bool :=
  x.toBits &&& 0x80000000 != 0

/-- The size of a double, `none` for zero. -/
def ofFloat? (x : Float) : Option Binary :=
  ofBits? 52 1075 (x.toBits &&& 0x7fffffffffffffff).toNat

/-- The size of a single, `none` for zero. -/
def ofFloat32? (x : Float32) : Option Binary :=
  ofBits? 23 150 (x.toBits &&& 0x7fffffff).toNat

end Binary

end QueryTree
