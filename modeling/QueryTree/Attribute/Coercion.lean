import QueryTree.Node.Build

/-!
# Coercions

A length coercion only changes the type modifier of its argument.  An implicit
coercion was put in by analysis: peeling it off gives back what was written.
-/

namespace QueryTree
namespace Node

/-!
# Length coercions
-/

/-- The type modifier that a node coerces its argument to, if that is all it
does: a cast function whose second of two or three arguments is an integer
constant, or an array coercion with a type modifier. -/
def lengthCoercion? : Node -> Option Int32
  | .funcExpr data args =>
      if data.format = .explicitCast ∨ data.format = .implicitCast then
        match args with
        | [_, .const second] | [_, .const second, _] =>
            if second.typeOid = BuiltinType.int4.toOid then second.value.int4? else none
        | _ => none
      else none
  | .arrayCoerceExpr data _ => if 0 <= data.typmod then some data.typmod else none
  | _ => none

/-!
# Implicit coercions
-/

/-- What an implicit coercion was applied to; `none` for any other node, and for
an implicit call without arguments. -/
def implicitArg? : Node -> Option Node
  | .funcExpr data args => if data.format = .implicitCast then args.head? else none
  | .relabelType data arg => if data.format = .implicitCast then some arg else none
  | .coerceViaInOut data arg => if data.format = .implicitCast then some arg else none
  | .arrayCoerceExpr data arg => if data.format = .implicitCast then some arg else none
  | .convertRowtypeExpr data arg => if data.format = .implicitCast then some arg else none
  | .coerceToDomain data arg => if data.format = .implicitCast then some arg else none
  | _ => none

theorem sizeOf_implicitArg? {node arg : Node} (h : node.implicitArg? = some arg) :
    sizeOf arg < sizeOf node := by
  cases node <;> simp [implicitArg?] at h
  case funcExpr data args =>
      obtain ⟨_, hhead⟩ := h
      have hmem : arg ∈ args := List.mem_of_mem_head? hhead
      have hlt : sizeOf arg < sizeOf args := List.sizeOf_lt_of_mem hmem
      have hsize : sizeOf (funcExpr data args) = 1 + sizeOf data + sizeOf args :=
        funcExpr.sizeOf_spec data args
      omega
  all_goals
    obtain ⟨_, rfl⟩ := h
    simp only [relabelType.sizeOf_spec, coerceViaInOut.sizeOf_spec, arrayCoerceExpr.sizeOf_spec,
      convertRowtypeExpr.sizeOf_spec, coerceToDomain.sizeOf_spec]
    omega

/-- The node below all implicit coercions: the first one that was written. -/
def stripImplicit (node : Node) : Node :=
  match h : node.implicitArg? with
  | some arg =>
      have : sizeOf arg < sizeOf node := sizeOf_implicitArg? h
      stripImplicit arg
  | none => node

/-- The node below a chain of relabelings, explicit or implicit. -/
def stripRelabels : Node -> Node
  | .relabelType _ arg => stripRelabels arg
  | node => node

end Node
end QueryTree
