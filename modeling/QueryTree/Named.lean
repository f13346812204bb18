/-!
# Finite types with written names

Every choice in a tree (a join type, a sort direction, a kind of node) is an
enumeration whose members are written by name.  `Named` holds the members in
their declaration order together with the name of each one, and reading a name
is a search through that list.
-/

namespace QueryTree

/-- A finite type whose members each have a name in the written form. -/
class Named (α : Type) where
  /-- Every member, in declaration order. -/
  members : List α
  /-- How a member is written. -/
  name : α -> String

namespace Named

/-- The member written as `text`, if there is one. -/
def ofName? {α : Type} [Named α] (text : String) : Option α :=
  members.find? fun member => name member == text

/-- A member is found again under its own name, as long as no other member
shares that name. -/
theorem ofName?_name {α : Type} [Named α] (member : α)
    (hmem : member ∈ (members : List α))
    (hinj : forall other : α, name other = name member -> other = member) :
    ofName? (name member) = some member := by
  unfold ofName?
  cases hfind : (members : List α).find? (fun m => name m == name member) with
  | none =>
      have hnone := List.find?_eq_none.mp hfind member hmem
      simp at hnone
  | some found =>
      have hfound := List.find?_some hfind
      have hname : name found = name member := by simpa using hfound
      rw [hinj found hname]

end Named

end QueryTree
