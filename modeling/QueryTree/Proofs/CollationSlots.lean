import QueryTree.Attribute.Assign
import QueryTree.Proofs.Answers
import QueryTree.Proofs.ChildTraversal
import QueryTree.Proofs.Scopes

/-!
# Collation slots

The kinds that store a collation of their own answer with it, and setting it changes the
answer and nothing else: no kind, no child, and none of the other attributes, since none of
them is looked up by way of a collation.  The same holds of the input collation, and the two
slots are independent of each other.  The checked setter adds one refusal and is otherwise
the plain one.
-/

namespace QueryTree

open Traversal Lookup

namespace Node

/-!
# Kinds with slots
-/

/-- Whether nodes of a kind store the collation of their result. -/
def Tag.storesCollation : Tag -> Bool
  | .var | .const | .param | .aggref | .windowFunc | .arrayRef | .funcExpr | .opExpr
  | .distinctExpr | .nullIfExpr | .fieldSelect | .relabelType | .coerceViaInOut
  | .arrayCoerceExpr | .collateExpr | .caseExpr | .caseTestExpr | .arrayExpr | .coalesceExpr
  | .minMaxExpr | .coerceToDomain | .coerceToDomainValue | .setToDefault => true
  | _ => false

/-- Whether nodes of a kind store the collation that their evaluation uses. -/
def Tag.storesInputCollation : Tag -> Bool
  | .aggref | .windowFunc | .funcExpr | .opExpr | .distinctExpr | .nullIfExpr
  | .scalarArrayOpExpr | .minMaxExpr => true
  | _ => false

/-!
# Attributes that do not depend on collations
-/

/-- Two nodes of one kind with the same children and, apart from collations, the same
attributes, whether these are found or not. -/
structure SameAttributes (catalog : Catalog) (node other : Node) : Prop where
  tag : other.tag = node.tag
  children : other.children = node.children
  type : other.exprType catalog = node.exprType catalog
  typmod : other.exprTypmod catalog = node.exprTypmod catalog
  location : other.exprLocation = node.exprLocation
  returnsSet : other.returnsSet = node.returnsSet

/-- Two nodes that no rule for one node tells apart, but for their collations. -/
structure SameRules (catalog : Catalog) (node other : Node) : Prop where
  tag : other.tag = node.tag
  children : other.children = node.children
  subLinkTarget : other.subLinkTarget = node.subLinkTarget
  typeWith : forall typeOf : Node -> Lookup Oid,
    other.typeWith catalog typeOf = node.typeWith catalog typeOf
  typmodWith : forall (typeOf : Node -> Lookup Oid) (typmodOf : Node -> Lookup Int32),
    other.typmodWith typeOf typmodOf = node.typmodWith typeOf typmodOf
  locationWith : forall locationOf : Node -> Lookup Location,
    other.locationWith locationOf = node.locationWith locationOf
  isSetReturning : other.isSetReturning = node.isSetReturning

theorem SameRules.trans {catalog : Catalog} {node other third : Node}
    (hfirst : SameRules catalog node other) (hsecond : SameRules catalog other third) :
    SameRules catalog node third where
  tag := hsecond.tag.trans hfirst.tag
  children := hsecond.children.trans hfirst.children
  subLinkTarget := hsecond.subLinkTarget.trans hfirst.subLinkTarget
  typeWith typeOf := (hsecond.typeWith typeOf).trans (hfirst.typeWith typeOf)
  typmodWith typeOf typmodOf :=
    (hsecond.typmodWith typeOf typmodOf).trans (hfirst.typmodWith typeOf typmodOf)
  locationWith locationOf :=
    (hsecond.locationWith locationOf).trans (hfirst.locationWith locationOf)
  isSetReturning := hsecond.isSetReturning.trans hfirst.isSetReturning

theorem walkChildren_congr {node other : Node} (htag : other.tag = node.tag)
    (hchildren : other.children = node.children) (visit : Visitor Unit TreeError) :
    walkChildren visit other = walkChildren visit node := by
  by_cases hentry : node.tag = .rangeTblEntry
  · cases node with
    | rangeTblEntry entry =>
        cases other with
        | rangeTblEntry other => rfl
        | _ => cases htag
    | _ => cases hentry
  · have hother : other.tag ≠ .rangeTblEntry := by
      rw [htag]
      exact hentry
    rw [walkChildren_of_tag_ne hentry, walkChildren_of_tag_ne hother, hchildren]

/-- Attributes are the same where the rules are. -/
theorem SameRules.attributes {catalog : Catalog} {node other : Node}
    (hrules : SameRules catalog node other) : SameAttributes catalog node other where
  tag := hrules.tag
  children := hrules.children
  type := by
    apply recurse_congr_step
    intro typeOf
    rw [hrules.typeWith]
  typmod := by
    apply recurse_congr_step
    intro typmodOf
    rw [hrules.typmodWith]
  location := by
    apply recurse_congr_step
    intro locationOf
    rw [hrules.locationWith]
  returnsSet := by
    have hfind : other.findSetReturning = node.findSetReturning := by
      apply recurse_congr_step
      intro visit
      rw [hrules.isSetReturning, hrules.tag, walkChildren_congr hrules.tag hrules.children]
    rw [returnsSet, returnsSet, hfind]

/-!
# The result collation
-/

section

variable {node result : Node} {collation : Oid}

theorem setCollation_of_not_isExpr (hexpr : node.isExpr = false) (collation : Oid) :
    node.setCollation collation = .error (.unrecognizedNode node.tag .setCollation) := by
  cases node <;> cases hexpr <;> rfl

theorem exists_setCollation (hexpr : node.isExpr = true) (collation : Oid) :
    exists result : Node, node.setCollation collation = .ok result := by
  cases node <;> cases hexpr <;> exact ⟨_, rfl⟩

theorem sameRules_setCollation (catalog : Catalog)
    (hset : node.setCollation collation = .ok result) : SameRules catalog node result := by
  -- the kinds that are refused leave nothing to show, and no rule reads the slot of the others
  cases node <;> cases hset <;>
    exact ⟨rfl, rfl, rfl, fun _ => rfl, fun _ _ => rfl, fun _ => rfl, rfl⟩

theorem inputCollation_setCollation (hset : node.setCollation collation = .ok result) :
    result.inputCollation = node.inputCollation := by
  cases node <;> cases hset <;> rfl

theorem setCollation_setCollation (hset : node.setCollation collation = .ok result) (other : Oid) :
    result.setCollation other = node.setCollation other := by
  cases node <;> cases hset <;> rfl

/-- A node without a slot is left as it is. -/
theorem eq_of_not_storesCollation (hslot : node.tag.storesCollation = false)
    (hset : node.setCollation collation = .ok result) : result = node := by
  cases node <;> cases hslot <;> cases hset <;> rfl

/-- What is in the slot is what the node answers with. -/
theorem collationWith_setCollation (hslot : node.tag.storesCollation = true)
    (hset : node.setCollation collation = .ok result) (collationOf : Node -> Lookup Oid) :
    result.collationWith collationOf = pure collation := by
  cases node <;> cases hslot <;> cases hset <;> rfl

/-- What a node has in its slot is what it answers with, and can be set again. -/
theorem exists_stored (hslot : node.tag.storesCollation = true) :
    exists stored : Oid,
      (forall collationOf : Node -> Lookup Oid, node.collationWith collationOf = pure stored) ∧
        node.setCollation stored = .ok node := by
  cases node <;> cases hslot <;> exact ⟨_, fun _ => rfl, rfl⟩

variable {depth limit : Nat} (hroom : depth < limit)

include hroom

theorem answer_exprCollation_setCollation (hslot : node.tag.storesCollation = true)
    (hset : node.setCollation collation = .ok result) :
    result.exprCollation.answer { depth, limit } = .ok collation := by
  rw [answer_exprCollation result hroom, collationWith_setCollation hslot hset]
  rfl

/-- Setting the collation that a node answers with changes nothing. -/
theorem eq_of_answer_exprCollation
    (hcurrent : node.exprCollation.answer { depth, limit } = .ok collation)
    (hset : node.setCollation collation = .ok result) : result = node := by
  cases hslot : node.tag.storesCollation with
  | false => exact eq_of_not_storesCollation hslot hset
  | true =>
      rcases exists_stored hslot with ⟨stored, hstored, hsame⟩
      rw [answer_exprCollation node hroom, hstored] at hcurrent
      cases hcurrent
      exact Except.ok.inj (hset.symm.trans hsame)

end

/-!
# The input collation
-/

section

variable (node : Node) (collation : Oid)

theorem sameRules_setInputCollation (catalog : Catalog) :
    SameRules catalog node (node.setInputCollation collation) := by
  cases node <;>
    exact ⟨rfl, rfl, rfl, fun _ => rfl, fun _ _ => rfl, fun _ => rfl, rfl⟩

theorem exprCollation_setInputCollation :
    (node.setInputCollation collation).exprCollation = node.exprCollation := by
  apply recurse_congr_step
  intro collationOf
  cases node <;> rfl

theorem inputCollation_setInputCollation (hslot : node.tag.storesInputCollation = true) :
    (node.setInputCollation collation).inputCollation = collation := by
  cases node <;> cases hslot <;> rfl

theorem setInputCollation_of_not_storesInputCollation
    (hslot : node.tag.storesInputCollation = false) :
    node.setInputCollation collation = node := by
  cases node <;> cases hslot <;> rfl

theorem setInputCollation_setInputCollation (other : Oid) :
    (node.setInputCollation collation).setInputCollation other = node.setInputCollation other := by
  cases node <;> rfl

theorem setInputCollation_inputCollation :
    node.setInputCollation node.inputCollation = node := by
  cases node <;> rfl

/-- The two slots are independent. -/
theorem setCollation_setInputCollation (inputCollation : Oid) :
    (node.setInputCollation inputCollation).setCollation collation =
      (node.setCollation collation).map (setInputCollation · inputCollation) := by
  cases node <;> rfl

end

/-!
# The checked setter
-/

/-- The collation does not belong on the node: it is one, and the node is an expression whose
type is found and is not collatable. -/
def Misplaced (catalog : Catalog) (nesting : Nesting) (node : Node) (collation type : Oid) :
    Prop :=
  collation ≠ Oid.invalid ∧ node.isExpr = true ∧
    (node.exprType catalog).answer nesting = .ok type ∧ catalog.isCollatable type = false

theorem runFrom_liftM_exprType (catalog : Catalog) (node : Node) (nesting : Nesting) :
    runFrom (liftM (node.exprType catalog) : Traversal Unit CollationError Oid) nesting () =
      (((node.exprType catalog).answer nesting).mapError .tree, nesting, ()) :=
  runFrom_ofLookup_eq_answer (node.balanced_exprType catalog) nesting ()

theorem runFrom_typeIfKnown (catalog : Catalog) (node : Node) (nesting : Nesting) :
    runFrom (node.typeIfKnown catalog) nesting () =
      (.ok ((node.exprType catalog).answer nesting).toOption, nesting, ()) := by
  rw [typeIfKnown, runFrom_tryCatch, runFrom_bind, runFrom_liftM_exprType]
  cases (node.exprType catalog).answer nesting with
  | error error => rfl
  | ok type => rfl

section

variable {catalog : Catalog} {nesting : Nesting} {node : Node} {collation : Oid}

/-- Where the collation does not belong, it is refused. -/
theorem runFrom_setCollationChecked_of_misplaced {type : Oid}
    (hmisplaced : node.Misplaced catalog nesting collation type) :
    runFrom (node.setCollationChecked catalog collation) nesting () =
      (.error (.notCollatable collation node.tag type), nesting, ()) := by
  rcases hmisplaced with ⟨hvalid, hexpr, htype, hcollatable⟩
  rw [setCollationChecked, if_pos ⟨hvalid, hexpr⟩, runFrom_bind, runFrom_typeIfKnown, htype]
  show runFrom (if catalog.isCollatable type = true then _ else _) nesting () = _
  rw [if_neg (ne_true_of_eq_false hcollatable)]
  rfl

/-- Everywhere else the check changes nothing. -/
theorem runFrom_setCollationChecked
    (hplaced : forall type : Oid, ¬ node.Misplaced catalog nesting collation type) :
    runFrom (node.setCollationChecked catalog collation) nesting () =
      ((node.setCollation collation).mapError .tree, nesting, ()) := by
  rw [setCollationChecked]
  by_cases hasked : collation ≠ Oid.invalid ∧ node.isExpr = true
  · rw [if_pos hasked, runFrom_bind, runFrom_typeIfKnown]
    cases htype : (node.exprType catalog).answer nesting with
    | error error => cases node.setCollation collation <;> rfl
    | ok type =>
        have hcollatable : catalog.isCollatable type = true := by
          by_contra hnot
          exact hplaced type ⟨hasked.left, hasked.right, htype, eq_false_of_ne_true hnot⟩
        show runFrom (if catalog.isCollatable type = true then _ else _) nesting () = _
        rw [if_pos hcollatable]
        cases node.setCollation collation <;> rfl
  · rw [if_neg hasked]
    cases node.setCollation collation <;> rfl

end

end Node

open Node

/-- What setting the result collation does to an expression: the slot, where there is one, has
the new collation, and all else stays. -/
structure SetsCollation (catalog : Catalog) (nesting : Nesting) (node : Node) (collation : Oid)
    (result : Node) : Prop where
  attributes : SameAttributes catalog node result
  otherSlot : result.inputCollation = node.inputCollation
  slot : node.tag.storesCollation = true -> result.exprCollation.answer nesting = .ok collation
  noSlot : node.tag.storesCollation = false -> result = node
  again : forall other : Oid, result.setCollation other = node.setCollation other
  current : node.exprCollation.answer nesting = .ok collation -> result = node

/-- What setting the input collation does. -/
structure SetsInputCollation (catalog : Catalog) (node : Node) (collation : Oid) (result : Node) :
    Prop where
  attributes : SameAttributes catalog node result
  otherSlot : result.exprCollation = node.exprCollation
  slot : node.tag.storesInputCollation = true -> result.inputCollation = collation
  noSlot : node.tag.storesInputCollation = false -> result = node
  again : forall other : Oid, result.setInputCollation other = node.setInputCollation other
  current : node.inputCollation = collation -> result = node

theorem setsCollation_setCollation (catalog : Catalog) {depth limit : Nat} (hroom : depth < limit)
    {node result : Node} {collation : Oid} (hset : node.setCollation collation = .ok result) :
    SetsCollation catalog { depth, limit } node collation result where
  attributes := (sameRules_setCollation catalog hset).attributes
  otherSlot := inputCollation_setCollation hset
  slot hslot := answer_exprCollation_setCollation hroom hslot hset
  noSlot hslot := eq_of_not_storesCollation hslot hset
  again := setCollation_setCollation hset
  current hcurrent := eq_of_answer_exprCollation hroom hcurrent hset

theorem setsInputCollation_setInputCollation (catalog : Catalog) (node : Node) (collation : Oid) :
    SetsInputCollation catalog node collation (node.setInputCollation collation) where
  attributes := (sameRules_setInputCollation node collation catalog).attributes
  otherSlot := exprCollation_setInputCollation node collation
  slot := inputCollation_setInputCollation node collation
  noSlot := setInputCollation_of_not_storesInputCollation node collation
  again := setInputCollation_setInputCollation node collation
  current := by
    rintro rfl
    exact setInputCollation_inputCollation node

/-- The collation setters are lawful.  Setting the result collation fails on anything but an
expression, and changes what an expression with a slot answers, and nothing else; so does
setting the input collation, and the order of the two is of no account.  The checked setter
refuses exactly the collations that do not belong where they are put, and otherwise is the
plain one. -/
theorem collation_setters_lawful (catalog : Catalog) (node : Node) (collation other : Oid)
    {depth limit : Nat} (hroom : depth < limit) :
    (node.isExpr = false ->
      node.setCollation collation = .error (.unrecognizedNode node.tag .setCollation)) ∧
    (node.isExpr = true ->
      exists result : Node, node.setCollation collation = .ok result ∧
        SetsCollation catalog { depth, limit } node collation result) ∧
    SetsInputCollation catalog node collation (node.setInputCollation collation) ∧
    (node.setInputCollation other).setCollation collation =
      (node.setCollation collation).map (setInputCollation · other) ∧
    (forall type : Oid, node.Misplaced catalog { depth, limit } collation type ->
      runFrom (node.setCollationChecked catalog collation) { depth, limit } () =
        (.error (.notCollatable collation node.tag type), { depth, limit }, ())) ∧
    ((forall type : Oid, ¬ node.Misplaced catalog { depth, limit } collation type) ->
      runFrom (node.setCollationChecked catalog collation) { depth, limit } () =
        ((node.setCollation collation).mapError .tree, { depth, limit }, ())) := by
  refine ⟨?_, ?_, ?_, ?_, ?_, ?_⟩
  · intro hexpr
    exact setCollation_of_not_isExpr hexpr collation
  · intro hexpr
    rcases exists_setCollation hexpr collation with ⟨result, hset⟩
    exact ⟨result, hset, setsCollation_setCollation catalog hroom hset⟩
  · exact setsInputCollation_setInputCollation catalog node collation
  · exact setCollation_setInputCollation node collation other
  · intro type hmisplaced
    exact runFrom_setCollationChecked_of_misplaced hmisplaced
  · intro hplaced
    exact runFrom_setCollationChecked hplaced

/-- The call of a function on texts, or on a text for its length. -/
def textCall (resultType : BuiltinType) (collation inputCollation : Oid) : Node :=
  .call 871 resultType.toOid
    [.ofVar 1 1 BuiltinType.text.toOid (-1) Collation.default 0] collation inputCollation
    .explicitCall

/-- The result collation of a call is set beside its input collation, but not on a call that
gives a number. -/
theorem collation_setters_lawful_textCall :
    0 < 5 ∧
      (exists result : Node, (textCall .text 100 100).setCollation 950 = .ok result ∧
        SetsCollation .builtin { depth := 0, limit := 5 } (textCall .text 100 100) 950 result) ∧
      runFrom ((textCall .text 100 100).setCollationChecked .builtin 950) { depth := 0, limit := 5 }
          () = (.ok (textCall .text 950 100), { depth := 0, limit := 5 }, ()) ∧
      runFrom ((textCall .int4 0 100).setCollationChecked .builtin 950) { depth := 0, limit := 5 }
          () =
        (.error (.notCollatable 950 .funcExpr BuiltinType.int4.toOid), { depth := 0, limit := 5 },
          ()) := by
  have hroom : 0 < 5 := by decide
  rcases collation_setters_lawful .builtin (textCall .text 100 100) 950 950 hroom with
    ⟨_, hset, _, _, _, hplaced⟩
  rcases collation_setters_lawful .builtin (textCall .int4 0 100) 950 950 hroom with
    ⟨_, _, _, _, hmisplaced, _⟩
  refine ⟨hroom, hset rfl, ?_, ?_⟩
  · apply hplaced
    rintro type ⟨_, _, htype, hcollatable⟩
    cases htype
    cases hcollatable
  · exact hmisplaced _ ⟨by decide, rfl, rfl, rfl⟩

end QueryTree
