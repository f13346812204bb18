import QueryTree.Proofs.Answers

/-!
# Type modifiers that all arms share

A `CASE` with a default, a `COALESCE`, a `GREATEST` or `LEAST` and an array give the value of
one of their arms.  Such a node has a type modifier exactly when there are arms and they are
unanimous about it: all of the common type, all with this modifier.  The arms are compared
one by one and the first disagreement ends the comparison, but since unanimity is a matter
of membership, their order is of no account.
-/

namespace QueryTree

open Traversal Lookup

namespace Node

/-- The type and the type modifier of a node are found, and they are these. -/
structure Typed (catalog : Catalog) (nesting : Nesting) (type : Oid) (typmod : Int32)
    (node : Node) : Prop where
  type : (node.exprType catalog).answer nesting = .ok type
  typmod : (node.exprTypmod catalog).answer nesting = .ok typmod

/-- The arms of a node that gives the value of one of them, and the type that they should
have. -/
structure Alternatives where
  type : Oid
  arms : List Node

namespace Alternatives

/-- There are arms, and all have the common type and a given type modifier. -/
structure Unanimous (catalog : Catalog) (nesting : Nesting) (alternatives : Alternatives)
    (typmod : Int32) : Prop where
  nonempty : alternatives.arms ≠ []
  agree : forall arm : Node, arm ∈ alternatives.arms ->
    arm.Typed catalog nesting alternatives.type typmod

/-- The type and the type modifier of every arm can be looked up. -/
def Resolved (catalog : Catalog) (nesting : Nesting) (alternatives : Alternatives) : Prop :=
  forall arm : Node, arm ∈ alternatives.arms ->
    exists (type : Oid) (typmod : Int32), arm.Typed catalog nesting type typmod

variable {catalog : Catalog} {nesting : Nesting} {alternatives other : Alternatives}

theorem Unanimous.perm {typmod : Int32} (htype : other.type = alternatives.type)
    (hperm : other.arms.Perm alternatives.arms)
    (hunanimous : alternatives.Unanimous catalog nesting typmod) :
    other.Unanimous catalog nesting typmod where
  nonempty := by
    intro hnil
    rw [hnil] at hperm
    exact hunanimous.nonempty hperm.nil_eq.symm
  agree := by
    intro arm harm
    rw [htype]
    exact hunanimous.agree arm (hperm.mem_iff.mp harm)

theorem Resolved.perm (hperm : other.arms.Perm alternatives.arms)
    (hresolved : alternatives.Resolved catalog nesting) : other.Resolved catalog nesting := by
  intro arm harm
  exact hresolved arm (hperm.mem_iff.mp harm)

end Alternatives

/-- What a node chooses its value from.  A `CASE` without default may also give null. -/
def alternatives? : Node -> Option Alternatives
  | .caseExpr data _ whens (some otherwise) =>
      some { type := data.caseType, arms := otherwise :: whens.map CaseWhen.result }
  | .arrayExpr data elements =>
      some
        { type := if data.multidims then data.arrayType else data.elementType, arms := elements }
  | .coalesceExpr data args => some { type := data.coalesceType, arms := args }
  | .minMaxExpr data args => some { type := data.minmaxType, arms := args }
  | _ => none

theorem typmodWith_of_alternatives {node : Node} {alternatives : Alternatives}
    (hnode : node.alternatives? = some alternatives) (typeOf : Node -> Lookup Oid)
    (typmodOf : Node -> Lookup Int32) :
    node.typmodWith typeOf typmodOf =
      commonTypmod typeOf typmodOf alternatives.type alternatives.arms := by
  cases node with
  | caseExpr data arg whens otherwise =>
      cases otherwise with
      | none => cases hnode
      | some otherwise =>
          cases hnode
          rfl
  | arrayExpr data elements =>
      cases hnode
      rfl
  | coalesceExpr data args =>
      cases hnode
      rfl
  | minMaxExpr data args =>
      cases hnode
      rfl
  | _ => cases hnode

/-!
# Comparing arms
-/

section

variable (catalog : Catalog) (nesting : Nesting) (type : Oid)

theorem balanced_allAgree (typmod : Int32) (arms : List Node) :
    (allAgree (exprType catalog) (exprTypmod catalog) type typmod arms).Balanced :=
  balanced_of_congruence fun hrelated depth =>
    hrelated.allAgree (fun arm => hrelated.exprType catalog arm depth)
      (fun arm => hrelated.exprTypmod catalog arm depth) type typmod arms

theorem answer_allAgree_eq_true_iff (typmod : Int32) (arms : List Node) :
    (allAgree (exprType catalog) (exprTypmod catalog) type typmod arms).answer nesting =
        .ok true <->
      forall arm : Node, arm ∈ arms -> arm.Typed catalog nesting type typmod := by
  induction arms with
  | nil =>
      constructor
      · intro _ arm harm
        cases harm
      · intro _
        rfl
  | cons arm rest ih =>
      rw [List.forall_mem_cons, ← ih, allAgree, answer_bind_eq_ok (arm.balanced_exprType catalog)]
      constructor
      · rintro ⟨armType, htype, hanswer⟩
        split at hanswer
        · cases hanswer
        rename_i hsameType
        rcases (answer_bind_eq_ok (arm.balanced_exprTypmod catalog)).mp hanswer with
          ⟨armTypmod, htypmod, hrest⟩
        split at hrest
        · cases hrest
        rename_i hsame
        rw [not_not.mp hsameType] at htype
        rw [not_not.mp hsame] at htypmod
        exact ⟨⟨htype, htypmod⟩, hrest⟩
      · rintro ⟨harm, hrest⟩
        refine ⟨type, harm.type, ?_⟩
        rw [if_neg (not_not_intro rfl), answer_bind_eq_ok (arm.balanced_exprTypmod catalog)]
        refine ⟨typmod, harm.typmod, ?_⟩
        rw [if_neg (not_not_intro rfl)]
        exact hrest

/-- The comparison ends, with yes or no, if everything can be looked up. -/
theorem exists_answer_allAgree (typmod : Int32) {arms : List Node}
    (hresolved : Alternatives.Resolved catalog nesting { type, arms }) :
    exists agreed : Bool,
      (allAgree (exprType catalog) (exprTypmod catalog) type typmod arms).answer nesting =
        .ok agreed := by
  induction arms with
  | nil => exact ⟨true, rfl⟩
  | cons arm rest ih =>
      rcases List.forall_mem_cons.mp hresolved with ⟨⟨armType, armTypmod, harm⟩, hrest⟩
      rw [allAgree, answer_bind (arm.balanced_exprType catalog), harm.type]
      by_cases hdiffers : armType ≠ type
      · exact ⟨false, congrArg (Lookup.answer · nesting) (if_pos hdiffers)⟩
      rw [Except.bind, if_neg hdiffers, answer_bind (arm.balanced_exprTypmod catalog), harm.typmod]
      by_cases hother : armTypmod ≠ typmod
      · exact ⟨false, congrArg (Lookup.answer · nesting) (if_pos hother)⟩
      rw [Except.bind, if_neg hother]
      exact ih hrest

/-- The arms have a type modifier in common if the first one has it and the others agree. -/
theorem answer_commonTypmod_eq_ok_iff {typmod : Int32} (hknown : 0 <= typmod)
    (arms : List Node) :
    (commonTypmod (exprType catalog) (exprTypmod catalog) type arms).answer nesting =
        .ok typmod <->
      Alternatives.Unanimous catalog nesting { type, arms } typmod := by
  have hunknown : typmod ≠ unknownTypmod := by
    rintro rfl
    exact absurd hknown (by decide)
  cases arms with
  | nil =>
      constructor
      · intro hanswer
        cases hanswer
        exact absurd rfl hunknown
      · intro hunanimous
        exact absurd rfl hunanimous.nonempty
  | cons first rest =>
      rw [commonTypmod, answer_bind_eq_ok (first.balanced_exprType catalog)]
      constructor
      · rintro ⟨firstType, htype, hanswer⟩
        split at hanswer
        · cases hanswer
          exact absurd rfl hunknown
        rename_i hsameType
        rcases (answer_bind_eq_ok (first.balanced_exprTypmod catalog)).mp hanswer with
          ⟨firstTypmod, htypmod, hfound⟩
        split at hfound
        · cases hfound
          exact absurd rfl hunknown
        rcases (answer_bind_eq_ok (balanced_allAgree catalog type firstTypmod rest)).mp hfound with
          ⟨agreed, hagreed, hresult⟩
        cases agreed with
        | false =>
            cases hresult
            exact absurd rfl hunknown
        | true =>
            cases hresult
            rw [not_not.mp hsameType] at htype
            refine ⟨List.cons_ne_nil first rest, List.forall_mem_cons.mpr ⟨⟨htype, htypmod⟩, ?_⟩⟩
            exact (answer_allAgree_eq_true_iff catalog nesting type _ rest).mp hagreed
      · intro hunanimous
        rcases List.forall_mem_cons.mp hunanimous.agree with ⟨hfirst, hrest⟩
        refine ⟨type, hfirst.type, ?_⟩
        rw [if_neg (not_not_intro rfl), answer_bind_eq_ok (first.balanced_exprTypmod catalog)]
        refine ⟨typmod, hfirst.typmod, ?_⟩
        rw [if_neg (Int32.not_lt.mpr hknown),
          answer_bind_eq_ok (balanced_allAgree catalog type typmod rest)]
        exact ⟨true, (answer_allAgree_eq_true_iff catalog nesting type typmod rest).mpr hrest, rfl⟩

/-- If everything can be looked up, the arms have a type modifier in common or none is
known. -/
theorem exists_answer_commonTypmod {arms : List Node}
    (hresolved : Alternatives.Resolved catalog nesting { type, arms }) :
    exists typmod : Int32,
      (commonTypmod (exprType catalog) (exprTypmod catalog) type arms).answer nesting =
          .ok typmod ∧
        (0 <= typmod ∨ typmod = unknownTypmod) := by
  cases arms with
  | nil => exact ⟨unknownTypmod, rfl, Or.inr rfl⟩
  | cons first rest =>
      rcases List.forall_mem_cons.mp hresolved with ⟨⟨firstType, typmod, hfirst⟩, hrest⟩
      rcases exists_answer_allAgree catalog nesting type typmod hrest with ⟨agreed, hagreed⟩
      rw [commonTypmod, answer_bind (first.balanced_exprType catalog), hfirst.type]
      by_cases hdiffers : firstType ≠ type
      · exact ⟨unknownTypmod, congrArg (Lookup.answer · nesting) (if_pos hdiffers), Or.inr rfl⟩
      rw [Except.bind, if_neg hdiffers, answer_bind (first.balanced_exprTypmod catalog),
        hfirst.typmod]
      by_cases hnone : typmod < 0
      · exact ⟨unknownTypmod, congrArg (Lookup.answer · nesting) (if_pos hnone), Or.inr rfl⟩
      rw [Except.bind, if_neg hnone, answer_bind (balanced_allAgree catalog type typmod rest),
        hagreed]
      cases agreed with
      | true => exact ⟨typmod, rfl, Or.inl (Int32.not_lt.mp hnone)⟩
      | false => exact ⟨unknownTypmod, rfl, Or.inr rfl⟩

end

/-!
# Type modifiers of nodes with arms
-/

section

variable (catalog : Catalog) {depth limit : Nat} (hroom : depth < limit) {node : Node}
  {alternatives : Alternatives} (hnode : node.alternatives? = some alternatives)

include hroom hnode

theorem answer_exprTypmod_of_alternatives :
    (node.exprTypmod catalog).answer { depth, limit } =
      (commonTypmod (exprType catalog) (exprTypmod catalog) alternatives.type
        alternatives.arms).answer { depth := depth + 1, limit } := by
  rw [answer_exprTypmod catalog node hroom, typmodWith_of_alternatives hnode]

theorem answer_exprTypmod_eq_ok_iff {typmod : Int32} (hknown : 0 <= typmod) :
    (node.exprTypmod catalog).answer { depth, limit } = .ok typmod <->
      alternatives.Unanimous catalog { depth := depth + 1, limit } typmod := by
  rw [answer_exprTypmod_of_alternatives catalog hroom hnode]
  exact answer_commonTypmod_eq_ok_iff catalog _ alternatives.type hknown alternatives.arms

theorem answer_exprTypmod_eq_unknown
    (hresolved : alternatives.Resolved catalog { depth := depth + 1, limit })
    (hdiffer : forall typmod : Int32, 0 <= typmod ->
      ¬ alternatives.Unanimous catalog { depth := depth + 1, limit } typmod) :
    (node.exprTypmod catalog).answer { depth, limit } = .ok unknownTypmod := by
  rcases exists_answer_commonTypmod catalog _ alternatives.type hresolved with
    ⟨typmod, hanswer, hknown | rfl⟩
  · have hunanimous :=
      (answer_commonTypmod_eq_ok_iff catalog _ alternatives.type hknown _).mp hanswer
    exact absurd hunanimous (hdiffer typmod hknown)
  · rw [answer_exprTypmod_of_alternatives catalog hroom hnode, hanswer]

end

/-- The order of the arms does not matter, nor which kind of node they are the arms of. -/
theorem answer_exprTypmod_eq_of_perm (catalog : Catalog) {depth limit : Nat}
    (hroom : depth < limit) {node other : Node} {alternatives otherAlternatives : Alternatives}
    (hnode : node.alternatives? = some alternatives)
    (hother : other.alternatives? = some otherAlternatives)
    (hresolved : alternatives.Resolved catalog { depth := depth + 1, limit })
    (htype : otherAlternatives.type = alternatives.type)
    (hperm : otherAlternatives.arms.Perm alternatives.arms) :
    (other.exprTypmod catalog).answer { depth, limit } =
      (node.exprTypmod catalog).answer { depth, limit } := by
  by_cases hagree : exists typmod : Int32, 0 <= typmod ∧
      alternatives.Unanimous catalog { depth := depth + 1, limit } typmod
  · rcases hagree with ⟨typmod, hknown, hunanimous⟩
    rw [(answer_exprTypmod_eq_ok_iff catalog hroom hnode hknown).mpr hunanimous]
    rw [(answer_exprTypmod_eq_ok_iff catalog hroom hother hknown).mpr
      (hunanimous.perm htype hperm)]
  · have hdiffer : forall typmod : Int32, 0 <= typmod ->
        ¬ alternatives.Unanimous catalog { depth := depth + 1, limit } typmod := by
      intro typmod hknown hunanimous
      exact hagree ⟨typmod, hknown, hunanimous⟩
    rw [answer_exprTypmod_eq_unknown catalog hroom hnode hresolved hdiffer]
    apply answer_exprTypmod_eq_unknown catalog hroom hother (hresolved.perm hperm)
    intro typmod hknown hunanimous
    exact hdiffer typmod hknown (hunanimous.perm htype.symm hperm.symm)

/-- A type modifier is agreed upon throughout a tree: nodes with arms have some, all of the
common type and all in agreement, and where there are no arms to choose from the type
modifier is found. -/
inductive AgreesOn (catalog : Catalog) (limit : Nat) (typmod : Int32) : Nat -> Node -> Prop where
  | single {depth : Nat} {node : Node} (hnode : node.alternatives? = none)
      (htypmod : (node.exprTypmod catalog).answer { depth, limit } = .ok typmod) :
      AgreesOn catalog limit typmod depth node
  | choice {depth : Nat} {node : Node} {alternatives : Alternatives}
      (hnode : node.alternatives? = some alternatives) (hnonempty : alternatives.arms ≠ [])
      (htype : forall arm : Node, arm ∈ alternatives.arms ->
        (arm.exprType catalog).answer { depth := depth + 1, limit } = .ok alternatives.type)
      (harms : forall arm : Node, arm ∈ alternatives.arms ->
        AgreesOn catalog limit typmod (depth + 1) arm) :
      AgreesOn catalog limit typmod depth node

/-- A known type modifier is one that is agreed upon at every level. -/
theorem answer_exprTypmod_iff_agreesOn (catalog : Catalog) {depth limit : Nat}
    (hroom : depth < limit) (node : Node) {typmod : Int32} (hknown : 0 <= typmod) :
    (node.exprTypmod catalog).answer { depth, limit } = .ok typmod <->
      node.AgreesOn catalog limit typmod depth := by
  -- each level of arms is asked one level deeper, so the levels that remain bound the tree
  induction hremaining : limit - depth generalizing depth node with
  | zero => omega
  | succ remaining ih =>
      constructor
      · intro hanswer
        cases hnode : node.alternatives? with
        | none => exact .single hnode hanswer
        | some alternatives =>
            rw [answer_exprTypmod_eq_ok_iff catalog hroom hnode hknown] at hanswer
            refine .choice hnode hanswer.nonempty (fun arm harm => (hanswer.agree arm harm).type) ?_
            intro arm harm
            have htypmod := (hanswer.agree arm harm).typmod
            exact (ih (depth_lt_of_answer_ok htypmod) arm (by omega)).mp htypmod
      · intro hagrees
        cases hagrees with
        | single hnode htypmod => exact htypmod
        | choice hnode hnonempty htype harms =>
            rw [answer_exprTypmod_eq_ok_iff catalog hroom hnode hknown]
            refine ⟨hnonempty, fun arm harm => ⟨htype arm harm, ?_⟩⟩
            have hdeeper := depth_lt_of_answer_ok (htype arm harm)
            exact (ih hdeeper arm (by omega)).mpr (harms arm harm)

/-!
# Length coercions
-/

theorem typmodWith_of_lengthCoercion {node : Node} {typmod : Int32}
    (hcoercion : node.lengthCoercion? = some typmod) (typeOf : Node -> Lookup Oid)
    (typmodOf : Node -> Lookup Int32) : node.typmodWith typeOf typmodOf = pure typmod := by
  cases node with
  | funcExpr data args => rw [typmodWith, hcoercion, Option.getD_some]
  | arrayCoerceExpr data arg =>
      rw [lengthCoercion?] at hcoercion
      split at hcoercion
      · cases hcoercion
        rfl
      · cases hcoercion
  | _ => cases hcoercion

end Node

open Node

/-- A node with arms has a type modifier exactly when its arms are unanimous about it, and
none is known if they are not, as for a `CASE` without default.  A length coercion has the
type modifier that it coerces to. -/
theorem exprTypmod_unanimous (catalog : Catalog) {depth limit : Nat} (hroom : depth < limit) :
    (forall (node : Node) (alternatives : Alternatives),
      node.alternatives? = some alternatives ->
        (forall typmod : Int32, 0 <= typmod ->
          ((node.exprTypmod catalog).answer { depth, limit } = .ok typmod <->
            alternatives.Unanimous catalog { depth := depth + 1, limit } typmod)) ∧
        (alternatives.Resolved catalog { depth := depth + 1, limit } ->
          (forall typmod : Int32, 0 <= typmod ->
            ¬ alternatives.Unanimous catalog { depth := depth + 1, limit } typmod) ->
          (node.exprTypmod catalog).answer { depth, limit } = .ok (-1)) ∧
        (alternatives.Resolved catalog { depth := depth + 1, limit } ->
          forall (other : Node) (otherAlternatives : Alternatives),
            other.alternatives? = some otherAlternatives ->
            otherAlternatives.type = alternatives.type ->
            otherAlternatives.arms.Perm alternatives.arms ->
            (other.exprTypmod catalog).answer { depth, limit } =
              (node.exprTypmod catalog).answer { depth, limit })) ∧
      (forall (node : Node) (typmod : Int32), 0 <= typmod ->
        ((node.exprTypmod catalog).answer { depth, limit } = .ok typmod <->
          node.AgreesOn catalog limit typmod depth)) ∧
      (forall (data : CaseExpr) (arg : Option Node) (whens : List CaseWhen),
        ((Node.caseExpr data arg whens none).exprTypmod catalog).answer { depth, limit } =
          .ok (-1)) ∧
      (forall (node : Node) (typmod : Int32), node.lengthCoercion? = some typmod ->
        (node.exprTypmod catalog).answer { depth, limit } = .ok typmod) := by
  refine ⟨?_, ?_, ?_, ?_⟩
  · intro node alternatives hnode
    refine ⟨?_, ?_, ?_⟩
    · intro typmod hknown
      exact answer_exprTypmod_eq_ok_iff catalog hroom hnode hknown
    · exact answer_exprTypmod_eq_unknown catalog hroom hnode
    · intro hresolved other otherAlternatives hother htype hperm
      exact answer_exprTypmod_eq_of_perm catalog hroom hnode hother hresolved htype hperm
  · intro node typmod hknown
    exact answer_exprTypmod_iff_agreesOn catalog hroom node hknown
  · intro data arg whens
    rw [answer_exprTypmod catalog _ hroom]
    rfl
  · intro node typmod hcoercion
    rw [answer_exprTypmod catalog node hroom, typmodWith_of_lengthCoercion hcoercion]
    rfl

/-- A text column with a type modifier. -/
def textColumn (attno : Int16) (typmod : Int32) : Node :=
  .ofVar 1 attno BuiltinType.varchar.toOid typmod Oid.invalid 0

/-- The first of a column of ten characters and a `CASE` between another column and a cast to
ten characters. -/
def coalesceColumns (typmod : Int32) : Node :=
  .coalesceExpr
    { coalesceType := BuiltinType.varchar.toOid, collation := Oid.invalid, location := none }
    [textColumn 1 14,
      .caseExpr
        { caseType := BuiltinType.varchar.toOid, collation := Oid.invalid, location := none } none
        [{ expr := .ofBool true, result := textColumn 2 typmod, location := none }]
        (some (.call 669 BuiltinType.varchar.toOid [textColumn 3 24, .ofInt4 14] Oid.invalid
          Oid.invalid .implicitCast))]

/-- Ten characters if the column in the `CASE` has them too, and unknown otherwise. -/
theorem exprTypmod_unanimous_coalesceColumns :
    0 < 10 ∧
      ((coalesceColumns 14).exprTypmod .builtin).answer { depth := 0, limit := 10 } = .ok 14 ∧
      ((coalesceColumns 24).exprTypmod .builtin).answer { depth := 0, limit := 10 } =
        .ok (-1) := by
  have hroom : 0 < 10 := by decide
  rcases exprTypmod_unanimous .builtin hroom with ⟨hchoice, _⟩
  refine ⟨hroom, ?_, ?_⟩
  · rcases hchoice (coalesceColumns 14) _ rfl with ⟨hunanimous, _⟩
    rw [hunanimous 14 (by decide)]
    refine ⟨List.cons_ne_nil _ _, ?_⟩
    simp only [List.forall_mem_cons]
    exact ⟨⟨rfl, rfl⟩, ⟨rfl, rfl⟩, nofun⟩
  · rcases hchoice (coalesceColumns 24) _ rfl with ⟨_, hunknown, _⟩
    apply hunknown
    · unfold Alternatives.Resolved
      simp only [List.forall_mem_cons]
      exact ⟨⟨_, _, rfl, rfl⟩, ⟨_, _, rfl, rfl⟩, nofun⟩
    · intro typmod hknown hunanimous
      have hcase := (hunanimous.agree _ (.tail _ (.head _))).typmod
      cases hcase
      exact absurd hknown (by decide)

end QueryTree
