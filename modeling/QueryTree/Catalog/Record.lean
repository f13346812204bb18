import QueryTree.Catalog
import QueryTree.Json.Record

/-!
# Type facts in JSON
-/

namespace QueryTree
namespace TypeInfo

open Json (Fields decode encode)

def fields : List String :=
  ["oid", "name", "element_type", "array_type", "collatable"]

instance : Json.Coded TypeInfo where
  encode info :=
    Json.ofRecord fields
      [encode info.oid, encode info.name, encode info.elementType, encode info.arrayType,
       encode info.collatable]
  decode := Json.record fields do
    return {
      oid := ← Fields.next
      name := ← Fields.next
      elementType := ← Fields.next
      arrayType := ← Fields.next
      collatable := ← Fields.next }

end TypeInfo
end QueryTree
