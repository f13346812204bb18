import QueryTree.Node.Leaves
import QueryTree.RawNode.Fields

/-!
# Written forms of literals
-/

namespace QueryTree

open Json (alternative alternatives decode encode Coded Decode)

namespace Value

/-- Read a literal that holds something under the name of its type. -/
def readHolding (name : String) (value : Json) : Decode Value :=
  match name with
  | "Integer" => do return .integer (← decode value)
  | "Float" => do return .float (← decode value)
  | "String" => do return .string (← decode value)
  | "BitString" => do return .bitString (← decode value)
  | "Null" =>
      match value with
      | .null => pure .null
      | _ => failure
  | _ => failure

end Value

instance : Coded Value where
  encode
    | .integer value => alternative "Integer" (encode value)
    | .float text => alternative "Float" (encode text)
    | .string text => alternative "String" (encode text)
    | .bitString text => alternative "BitString" (encode text)
    | .null => .str "Null"
  decode := alternatives (fun name => if name == "Null" then some .null else none) Value.readHolding

end QueryTree
