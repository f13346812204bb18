import QueryTree.RawNode.Tag

/-!
# Labels of raw nodes
-/

namespace QueryTree

/-- A literal as a detail. -/
def Value.detail : Value -> String
  | .integer value => toString value.toInt
  | .float text | .string text | .bitString text => text
  | .null => "null"

namespace RawNode

/-- What tells a raw node from others of its kind. -/
def detail? : RawNode -> Option String
  | .value literal => some literal.detail
  | .aConst data => some data.val.detail
  | .paramRef data => some (toString data.number.toInt)
  | .rangeVar data _ => some data.relname
  | .rangeAlias data => some data.name
  | .resTarget data _ _ => data.name
  | .funcCall data .. => some (".".intercalate data.funcname)
  | .typeName data .. => some (".".intercalate data.names)
  | .commonTableExpr data _ => some data.name
  | _ => none

/-- The kind of a raw node with its detail. -/
def name (node : RawNode) : String :=
  match node.detail? with
  | some detail => node.tag.name ++ ":" ++ detail
  | none => node.tag.name

/-- The name of a raw node together with the depth at which it was met. -/
def label (node : RawNode) (depth : Nat) : String :=
  node.name ++ "@" ++ toString depth

end RawNode
end QueryTree
