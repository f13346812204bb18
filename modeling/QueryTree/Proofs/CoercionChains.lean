import Mathlib.Logic.Relation
import QueryTree.Proofs.NormalForm

/-!
# Chains of implicit coercions

From an implicit coercion one can go to the argument that it coerces, and from there on as
long as there is an implicit coercion again.  Each step goes to a smaller node and there is
never more than one to take, so every chain ends, and all chains from a node end in the same
place.  Stripping gives that end, and coercions around a node only make the chain longer.
-/

namespace QueryTree

open Relation

namespace Node

/-!
# One step
-/

/-- The first node is an implicit coercion of the second.  A call coerces its first argument;
the others only say how. -/
inductive PeelsTo : Node -> Node -> Prop where
  | call {data : FuncExpr} (hformat : data.format = .implicitCast) (arg : Node)
      (further : List Node) : PeelsTo (.funcExpr data (arg :: further)) arg
  | relabel {data : RelabelType} (hformat : data.format = .implicitCast) (arg : Node) :
      PeelsTo (.relabelType data arg) arg
  | viaInOut {data : CoerceViaInOut} (hformat : data.format = .implicitCast) (arg : Node) :
      PeelsTo (.coerceViaInOut data arg) arg
  | elements {data : ArrayCoerceExpr} (hformat : data.format = .implicitCast) (arg : Node) :
      PeelsTo (.arrayCoerceExpr data arg) arg
  | row {data : ConvertRowtypeExpr} (hformat : data.format = .implicitCast) (arg : Node) :
      PeelsTo (.convertRowtypeExpr data arg) arg
  | domain {data : CoerceToDomain} (hformat : data.format = .implicitCast) (arg : Node) :
      PeelsTo (.coerceToDomain data arg) arg

theorem implicitArg?_eq_some_iff {node arg : Node} :
    node.implicitArg? = some arg <-> node.PeelsTo arg := by
  constructor
  · intro harg
    cases node with
    | funcExpr data args =>
        rcases Option.ite_none_right_eq_some.mp harg with ⟨hformat, hhead⟩
        cases args with
        | nil => cases hhead
        | cons first further =>
            cases hhead
            exact .call hformat arg further
    | relabelType | coerceViaInOut | arrayCoerceExpr | convertRowtypeExpr | coerceToDomain =>
        rcases Option.ite_none_right_eq_some.mp harg with ⟨hformat, hinner⟩
        cases hinner
        constructor
        exact hformat
    | _ => cases harg
  · intro hpeels
    cases hpeels with
    | call hformat | relabel hformat | viaInOut hformat | elements hformat | row hformat
    | domain hformat => exact if_pos hformat

theorem implicitArg?_eq_none_iff {node : Node} :
    node.implicitArg? = none <-> forall arg : Node, ¬ node.PeelsTo arg := by
  rw [Option.eq_none_iff_forall_ne_some]
  constructor
  · intro hnone arg hpeels
    exact hnone arg (implicitArg?_eq_some_iff.mpr hpeels)
  · intro hnone arg harg
    exact hnone arg (implicitArg?_eq_some_iff.mp harg)

theorem stripImplicit_of_peelsTo {node arg : Node} (hpeels : node.PeelsTo arg) :
    node.stripImplicit = arg.stripImplicit := by
  have harg := implicitArg?_eq_some_iff.mpr hpeels
  rw [stripImplicit]
  split
  · rename_i other hother
    cases harg.symm.trans hother
    rfl
  · rename_i hnone
    cases harg.symm.trans hnone

/-!
# Whole chains
-/

/-- All nodes of a chain have the same end. -/
theorem stripImplicit_of_reaches {node inner : Node} (hchain : ReflTransGen PeelsTo node inner) :
    node.stripImplicit = inner.stripImplicit := by
  induction hchain with
  | refl => rfl
  | tail _ hpeels ih => exact ih.trans (stripImplicit_of_peelsTo hpeels)

theorem reaches_stripImplicit (node : Node) : ReflTransGen PeelsTo node node.stripImplicit := by
  induction node using stripImplicit.induct with
  | case1 node arg harg _hsize ih =>
      have hpeels := implicitArg?_eq_some_iff.mp harg
      rw [stripImplicit_of_peelsTo hpeels]
      exact .head hpeels ih
  | case2 node hnone => rw [stripImplicit_eq_self hnone]

theorem stripImplicit_eq_self_iff {node : Node} :
    node.stripImplicit = node <-> forall arg : Node, ¬ node.PeelsTo arg := by
  rw [← implicitArg?_eq_none_iff]
  constructor
  · intro hself
    rw [← hself]
    exact implicitArg?_stripImplicit node
  · exact stripImplicit_eq_self

/-- No sequence of steps goes on for ever. -/
theorem exists_not_peelsTo (chain : Nat -> Node) :
    exists i : Nat, ¬ (chain i).PeelsTo (chain (i + 1)) := by
  generalize hstart : chain 0 = node
  -- the function recurses along the chain, so its own induction follows the sequence
  induction node using stripImplicit.induct generalizing chain with
  | case1 node arg harg _hsize ih =>
      by_cases hpeels : (chain 0).PeelsTo (chain 1)
      · have hnext : chain 1 = arg := by
          rw [hstart, ← implicitArg?_eq_some_iff, harg] at hpeels
          exact (Option.some.inj hpeels).symm
        rcases ih (fun i => chain (i + 1)) hnext with ⟨i, hend⟩
        exact ⟨i + 1, hend⟩
      · exact ⟨0, hpeels⟩
  | case2 node hnone =>
      refine ⟨0, ?_⟩
      rw [hstart]
      exact implicitArg?_eq_none_iff.mp hnone (chain 1)

end Node

/-- Going from implicit coercions to their arguments always ends.  A node that is reached in
this way is the stripped one exactly if there is no further step from it, and the stripped
node is reached.  It is the node itself exactly if there is no step from the node, stripping
it again changes nothing, and neither do further implicit coercions around the node. -/
theorem stripImplicit_ends_chain (node : Node) :
    (forall chain : Nat -> Node, chain 0 = node ->
        exists i : Nat, ¬ (chain i).PeelsTo (chain (i + 1))) ∧
      ReflTransGen Node.PeelsTo node node.stripImplicit ∧
      (forall last : Node, ReflTransGen Node.PeelsTo node last ->
        ((forall arg : Node, ¬ last.PeelsTo arg) <-> last = node.stripImplicit)) ∧
      (node.stripImplicit = node <-> forall arg : Node, ¬ node.PeelsTo arg) ∧
      node.stripImplicit.stripImplicit = node.stripImplicit ∧
      forall outer : Node, ReflTransGen Node.PeelsTo outer node ->
        outer.stripImplicit = node.stripImplicit := by
  have hagain : node.stripImplicit.stripImplicit = node.stripImplicit :=
    Node.stripImplicit_eq_self node.implicitArg?_stripImplicit
  refine ⟨?_, node.reaches_stripImplicit, ?_, Node.stripImplicit_eq_self_iff, hagain, ?_⟩
  · intro chain _hstart
    exact Node.exists_not_peelsTo chain
  · intro last hchain
    rw [← Node.stripImplicit_eq_self_iff, Node.stripImplicit_of_reaches hchain]
    exact eq_comm
  · intro outer hchain
    exact Node.stripImplicit_of_reaches hchain

/-- An implicit cast of a domain value to integer, by a call. -/
def Node.castOfDomain (arg : Node) : Node :=
  .call 1 BuiltinType.int4.toOid
    [.coerceToDomain
      { resultType := 16384, typmod := -1, collation := Oid.invalid, format := .implicitCast,
        location := none } arg, .ofInt4 8] Oid.invalid Oid.invalid .implicitCast

/-- An implicit call without arguments is where a chain ends, whatever is around it. -/
theorem stripImplicit_ends_chain_bareCall :
    let bareCall := Node.call 2 BuiltinType.int4.toOid [] Oid.invalid Oid.invalid .implicitCast
    ReflTransGen Node.PeelsTo bareCall.implicitly.castOfDomain bareCall ∧
      bareCall.implicitly.castOfDomain.stripImplicit = bareCall := by
  intro bareCall
  have hchain : ReflTransGen Node.PeelsTo bareCall.implicitly.castOfDomain bareCall :=
    .head (.call rfl _ _) (.head (.domain rfl _) (.head (.relabel rfl _) .refl))
  have hend : forall arg : Node, ¬ bareCall.PeelsTo arg := Node.implicitArg?_eq_none_iff.mp rfl
  rcases stripImplicit_ends_chain bareCall with ⟨_, _, _, hself, _, hwrapped⟩
  exact ⟨hchain, (hwrapped _ hchain).trans (hself.mpr hend)⟩

end QueryTree
