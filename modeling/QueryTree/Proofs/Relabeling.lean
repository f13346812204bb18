import QueryTree.Proofs.Answers
import QueryTree.Proofs.NormalForm

/-!
# Relabeling to a type modifier

A relabeled node has one explicit relabeling in place of all that it had before.  Its type
and its collation are those that the outermost of them exposed, so they have to be asked for
before the chain is taken off.  What a second relabeling asks for is then the same as what
the first one did, and takes off the same chain.
-/

namespace QueryTree

open Traversal Lookup

namespace Node

/-!
# Chains of relabelings
-/

/-- A node in a chain of relabelings, the outermost one first. -/
def relabeledBy (arg : Node) (chain : List RelabelType) : Node :=
  chain.foldr relabelType arg

theorem tag_stripRelabels_ne (node : Node) : node.stripRelabels.tag ≠ .relabelType := by
  induction node using stripRelabels.induct with
  | case1 data arg ih => exact ih
  | case2 node hother =>
      intro htag
      cases node with
      | relabelType data arg => exact hother data arg rfl
      | _ => cases htag

theorem exists_relabeledBy (node : Node) :
    exists chain : List RelabelType, node = node.stripRelabels.relabeledBy chain := by
  induction node using stripRelabels.induct with
  | case1 data arg ih =>
      rcases ih with ⟨chain, hchain⟩
      exact ⟨data :: chain, congrArg (relabelType data) hchain⟩
  | case2 node hother =>
      refine ⟨[], ?_⟩
      cases node with
      | relabelType data arg => exact absurd rfl (hother data arg)
      | _ => rfl

/-- No chain around a node hides what is inside it. -/
theorem stripRelabels_relabeledBy {arg : Node} (harg : arg.tag ≠ .relabelType)
    (chain : List RelabelType) : (arg.relabeledBy chain).stripRelabels = arg := by
  induction chain with
  | nil =>
      cases arg with
      | relabelType data inner => exact absurd rfl harg
      | _ => rfl
  | cons data rest ih => exact ih

/-!
# Attributes of a relabeling

All that is asked of a relabeling is in its own data.
-/

section

variable (data : RelabelType) (arg : Node) {depth limit : Nat} (hroom : depth < limit)

include hroom

theorem answer_exprType_relabelType (catalog : Catalog) :
    ((relabelType data arg).exprType catalog).answer { depth, limit } = .ok data.resultType := by
  rw [answer_exprType catalog _ hroom]
  rfl

theorem answer_exprCollation_relabelType :
    (relabelType data arg).exprCollation.answer { depth, limit } = .ok data.collation := by
  rw [answer_exprCollation _ hroom]
  rfl

theorem answer_exprTypmod_relabelType (catalog : Catalog) :
    ((relabelType data arg).exprTypmod catalog).answer { depth, limit } = .ok data.typmod := by
  rw [answer_exprTypmod catalog _ hroom]
  rfl

end

theorem answer_relabelToTypmod (catalog : Catalog) (node : Node) (typmod : Int32)
    (nesting : Nesting) :
    (node.relabelToTypmod catalog typmod).answer nesting =
      ((node.exprType catalog).answer nesting).bind fun type =>
        (node.exprCollation.answer nesting).bind fun collation =>
          .ok (node.stripRelabels.relabel type typmod collation .explicitCast) := by
  rw [relabelToTypmod, answer_bind (balanced_exprType catalog node)]
  congr 1
  funext type
  rw [answer_bind (balanced_exprCollation node)]
  rfl

theorem answer_relabelToTypmod_eq_ok {catalog : Catalog} {node result : Node} {typmod : Int32}
    {nesting : Nesting} :
    (node.relabelToTypmod catalog typmod).answer nesting = .ok result <->
      exists type collation : Oid, (node.exprType catalog).answer nesting = .ok type ∧
        node.exprCollation.answer nesting = .ok collation ∧
        result = node.stripRelabels.relabel type typmod collation .explicitCast := by
  rw [answer_relabelToTypmod]
  constructor
  · intro hanswer
    cases htype : (node.exprType catalog).answer nesting with
    | error error =>
        rw [htype] at hanswer
        cases hanswer
    | ok type =>
        cases hcollation : node.exprCollation.answer nesting with
        | error error =>
            rw [htype, hcollation] at hanswer
            cases hanswer
        | ok collation =>
            rw [htype, hcollation] at hanswer
            cases hanswer
            exact ⟨type, collation, rfl, rfl, rfl⟩
  · rintro ⟨type, collation, htype, hcollation, rfl⟩
    rw [htype, hcollation]
    rfl

/-- Relabeling depends on the type, the collation and what is inside the chain, and on nothing
else of a node. -/
theorem answer_relabelToTypmod_congr {catalog : Catalog} {node other : Node} {nesting : Nesting}
    (hstripped : other.stripRelabels = node.stripRelabels)
    (htype : (other.exprType catalog).answer nesting = (node.exprType catalog).answer nesting)
    (hcollation : other.exprCollation.answer nesting = node.exprCollation.answer nesting)
    (typmod : Int32) :
    (other.relabelToTypmod catalog typmod).answer nesting =
      (node.relabelToTypmod catalog typmod).answer nesting := by
  rw [answer_relabelToTypmod, answer_relabelToTypmod, hstripped, htype, hcollation]

end Node

/-!
# Relabeling once and again
-/

/-- What a node becomes by relabeling: its chain of relabelings is replaced by one that is
explicit and has the type modifier, and the type and the collation stay. -/
structure Relabeled (catalog : Catalog) (nesting : Nesting) (node : Node) (typmod : Int32)
    (result : Node) : Prop where
  unwrapped : exists (chain : List RelabelType) (arg : Node) (data : RelabelType),
    arg.tag ≠ .relabelType ∧ node = arg.relabeledBy chain ∧ result = .relabelType data arg ∧
      data.format = .explicitCast
  type : (result.exprType catalog).answer nesting = (node.exprType catalog).answer nesting
  collation : result.exprCollation.answer nesting = node.exprCollation.answer nesting
  typmod : (result.exprTypmod catalog).answer nesting = .ok typmod
  written : result.stripImplicit = result
  absorbed : forall other : Int32,
    (result.relabelToTypmod catalog other).answer nesting =
      (node.relabelToTypmod catalog other).answer nesting

theorem relabeled_of_answer_ok {catalog : Catalog} {node result : Node} {typmod : Int32}
    {nesting : Nesting}
    (hanswer : (node.relabelToTypmod catalog typmod).answer nesting = .ok result) :
    Relabeled catalog nesting node typmod result := by
  rcases Node.answer_relabelToTypmod_eq_ok.mp hanswer with ⟨type, collation, htype, hcollation, rfl⟩
  rcases node.exists_relabeledBy with ⟨chain, hchain⟩
  -- the type was found, so there is a level for the attributes of the result
  have hroom : nesting.depth < nesting.limit := depth_lt_of_answer_ok htype
  have hnewType : ((node.stripRelabels.relabel type typmod collation .explicitCast).exprType
      catalog).answer nesting = .ok type :=
    Node.answer_exprType_relabelType _ _ hroom catalog
  have hnewCollation : (node.stripRelabels.relabel type typmod collation
      .explicitCast).exprCollation.answer nesting = .ok collation :=
    Node.answer_exprCollation_relabelType _ _ hroom
  have hsameType := hnewType.trans htype.symm
  have hsameCollation := hnewCollation.trans hcollation.symm
  refine ⟨?_, hsameType, hsameCollation, ?_, ?_, ?_⟩
  · exact ⟨chain, node.stripRelabels, _, node.tag_stripRelabels_ne, hchain, rfl, rfl⟩
  · exact Node.answer_exprTypmod_relabelType _ _ hroom catalog
  · exact Node.stripImplicit_eq_self rfl
  · apply Node.answer_relabelToTypmod_congr _ hsameType hsameCollation
    exact Node.stripRelabels_relabeledBy node.tag_stripRelabels_ne [_]

/-- A node can be relabeled exactly if it has a type and a collation.  The result is an
explicit relabeling of what is inside all relabelings of the node, of the same type and
collation and with the given type modifier, and relabeling it again is relabeling the node. -/
theorem relabelToTypmod_absorbing (catalog : Catalog) (node : Node) (typmod : Int32)
    (nesting : Nesting) :
    ((exists result : Node, (node.relabelToTypmod catalog typmod).answer nesting = .ok result) <->
      (exists type : Oid, (node.exprType catalog).answer nesting = .ok type) ∧
        exists collation : Oid, node.exprCollation.answer nesting = .ok collation) ∧
      forall result : Node, (node.relabelToTypmod catalog typmod).answer nesting = .ok result ->
        Relabeled catalog nesting node typmod result := by
  refine ⟨⟨?_, ?_⟩, ?_⟩
  · rintro ⟨result, hanswer⟩
    rcases Node.answer_relabelToTypmod_eq_ok.mp hanswer with ⟨type, collation, htype, hcollation, _⟩
    exact ⟨⟨type, htype⟩, collation, hcollation⟩
  · rintro ⟨⟨type, htype⟩, collation, hcollation⟩
    exact ⟨_, Node.answer_relabelToTypmod_eq_ok.mpr ⟨type, collation, htype, hcollation, rfl⟩⟩
  · intro result hanswer
    exact relabeled_of_answer_ok hanswer

/-- A column of sixteen characters, read as text without saying so and then under another
collation. -/
def collatedText : Node :=
  let column := Node.ofVar 1 1 BuiltinType.varchar.toOid 20 Collation.default 0
  (column.relabel BuiltinType.text.toOid (-1) Collation.default .implicitCast).relabel
    BuiltinType.text.toOid (-1) 950 .explicitCast

/-- Both relabelings of `collatedText` give way to one, and the outer collation is kept. -/
theorem relabelToTypmod_absorbing_collatedText :
    let column := Node.ofVar 1 1 BuiltinType.varchar.toOid 20 Collation.default 0
    let result := column.relabel BuiltinType.text.toOid 10 950 .explicitCast
    (collatedText.relabelToTypmod .builtin 10).answer (.start 1) = .ok result ∧
      Relabeled .builtin (.start 1) collatedText 10 result := by
  intro column result
  have hanswer : (collatedText.relabelToTypmod .builtin 10).answer (.start 1) = .ok result := rfl
  exact ⟨hanswer, (relabelToTypmod_absorbing .builtin collatedText 10 (.start 1)).right _ hanswer⟩

end QueryTree
