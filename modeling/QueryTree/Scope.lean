/-!
# The scope of a traversal

Which parts of a query a traversal goes into, and whether it is shown the
entries of a range table themselves.
-/

namespace QueryTree

structure Scope where
  /-- Leave out the queries of range-table entries. -/
  skipSubqueries : Bool := false
  /-- Leave out the queries of `WITH` lists. -/
  skipCtes : Bool := false
  /-- Leave out the columns of join entries. -/
  skipJoinAliases : Bool := false
  /-- Leave out range tables altogether. -/
  skipRangeTable : Bool := false
  /-- Show every range-table entry before its contents. -/
  showEntries : Bool := false
deriving DecidableEq, Repr

namespace Scope

/-- Every part of every query, and no entries. -/
def everything : Scope := {}

/-- A scope as a number: one bit for each of its marks. -/
def bits (scope : Scope) : Nat :=
  scope.skipSubqueries.toNat + 2 * scope.skipCtes.toNat + 4 * scope.skipJoinAliases.toNat +
    8 * scope.skipRangeTable.toNat + 16 * scope.showEntries.toNat

/-- The scope with the given bits; other bits mean nothing. -/
def ofBits? (bits : Nat) : Option Scope :=
  if bits < 32 then
    some {
      skipSubqueries := bits.testBit 0
      skipCtes := bits.testBit 1
      skipJoinAliases := bits.testBit 2
      skipRangeTable := bits.testBit 3
      showEntries := bits.testBit 4 }
  else none

end Scope

end QueryTree
