/-!
# Object identifiers

Types, collations, functions and operators are all named by a 32-bit number.
Zero names nothing: it stands for "no collation", "no function" and so on.
-/

namespace QueryTree

/-- The number of a catalog object. -/
abbrev Oid := UInt32

/-- A byte offset into the statement text, absent when it is not known. -/
abbrev Location := Option UInt64

namespace Oid

/-- The number that names no object. -/
def invalid : Oid := 0

end Oid

/-!
# Well-known collations
-/

namespace Collation

/-- The collation of a database that chose none. -/
def default : Oid := 100

end Collation

end QueryTree
