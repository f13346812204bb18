import QueryTree.BuiltinType

/-!
# Type catalogs

A catalog answers questions about types by number.  The tree code never asks
more than this: the name of a type, its array and element types, and whether
its values carry a collation.  A `Registry` is a catalog that can be added to.
-/

namespace QueryTree

/-- What a catalog knows about one type. -/
structure TypeInfo where
  oid : Oid
  name : String
  /-- The type of the elements, for an array type. -/
  elementType : Option Oid
  /-- The type of arrays over this type. -/
  arrayType : Option Oid
  collatable : Bool
deriving DecidableEq, Repr

/-- The facts about a built-in type. -/
def BuiltinType.info (type : BuiltinType) : TypeInfo where
  oid := type.toOid
  name := type.typeName
  elementType := type.elementType?.map BuiltinType.toOid
  arrayType := type.arrayType?.map BuiltinType.toOid
  collatable := type.isCollatable

/-- A source of type facts. -/
structure Catalog where
  typeInfo : Oid -> Option TypeInfo

namespace Catalog

/-- The catalog that knows the built-in types only. -/
def builtin : Catalog where
  typeInfo oid := (BuiltinType.ofOid? oid).map BuiltinType.info

def arrayType (catalog : Catalog) (element : Oid) : Option Oid :=
  (catalog.typeInfo element).bind TypeInfo.arrayType

def elementType (catalog : Catalog) (array : Oid) : Option Oid :=
  (catalog.typeInfo array).bind TypeInfo.elementType

/-- The type that holds a collection of values of the given type.  An array type
holds collections of its own values, since arrays of arrays are not separate
types. -/
def promotedArrayType (catalog : Catalog) (type : Oid) : Option Oid :=
  match catalog.arrayType type with
  | some array => some array
  | none => if (catalog.elementType type).isSome then some type else none

def isCollatable (catalog : Catalog) (type : Oid) : Bool :=
  match catalog.typeInfo type with
  | some info => info.collatable
  | none => false

def typeName (catalog : Catalog) (type : Oid) : Option String :=
  (catalog.typeInfo type).map TypeInfo.name

end Catalog

/-!
# Registries

A registry holds one entry for each number.  Registering a number again
replaces its entry.
-/

/-- A catalog that types can be added to. -/
structure Registry where
  entries : List TypeInfo
deriving DecidableEq, Repr

namespace Registry

/-- The registry that starts with the built-in types. -/
def initial : Registry where
  entries := BuiltinType.all.map BuiltinType.info

/-- How many types are registered. -/
def size (registry : Registry) : Nat :=
  registry.entries.length

/-- Add a type, in place of the one that had its number. -/
def register (registry : Registry) (info : TypeInfo) : Registry where
  entries := info :: registry.entries.filter fun entry => entry.oid != info.oid

/-- Add a scalar type and the type of its arrays. -/
def registerWithArray (registry : Registry) (oid : Oid) (name : String) (array : Oid)
    (collatable : Bool) : Registry :=
  (registry.register
    { oid, name, elementType := none, arrayType := some array, collatable }).register
    { oid := array, name := "_" ++ name, elementType := some oid, arrayType := none, collatable }

/-- The catalog of a registry.  Zero names no type, whatever is registered. -/
def catalog (registry : Registry) : Catalog where
  typeInfo oid :=
    if oid = Oid.invalid then none else registry.entries.find? fun entry => entry.oid == oid

end Registry

end QueryTree
