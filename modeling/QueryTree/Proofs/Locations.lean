import Mathlib.Logic.Relation
import QueryTree.Attribute.Location
import QueryTree.BuiltinType
import QueryTree.Proofs.Outcomes

/-!
# Where locations come from

A location that is found is the own location of the node that was asked, or that of a node
which child steps lead to from there.  The own location of a node bounds it from the right.
That is not so for the few kinds which have a location of their own but stand where their
operand does.
-/

namespace QueryTree

open Traversal

/-!
# Places
-/

namespace Location

/-- If the location is known, it is one of the places. -/
def Among (location : Location) (places : UInt64 -> Prop) : Prop :=
  forall place : UInt64, location = some place -> places place

/-- If the token has a place, the location is known and not to the right of it. -/
def NotAfter (location token : Location) : Prop :=
  forall right : UInt64, token = some right ->
    exists place : UInt64, location = some place ∧ place <= right

section

variable {places : UInt64 -> Prop} {location other : Location}

theorem among_none : Among none places :=
  nofun

theorem Among.leftmost (hlocation : location.Among places) (hother : other.Among places) :
    (leftmost location other).Among places := by
  cases location with
  | none =>
      cases other with
      | none => exact among_none
      | some b => exact hother
  | some a =>
      cases other with
      | none => exact hlocation
      | some b =>
          rintro place hplace
          cases hplace
          rcases Std.MinEqOr.min_eq_or a b with hmin | hmin
          · rw [hmin]
            exact hlocation a rfl
          · rw [hmin]
            exact hother b rfl

theorem notAfter_self (token : Location) : token.NotAfter token :=
  fun right hright => ⟨right, hright, Std.le_refl right⟩

theorem notAfter_none (location : Location) : location.NotAfter none :=
  nofun

theorem leftmost_notAfter_left (token other : Location) :
    (leftmost token other).NotAfter token := by
  rintro right rfl
  cases other with
  | none => exact ⟨right, rfl, Std.le_refl right⟩
  | some b => exact ⟨min right b, rfl, Std.min_le_left⟩

theorem leftmost_notAfter_right (other token : Location) :
    (leftmost other token).NotAfter token := by
  rintro right rfl
  cases other with
  | none => exact ⟨right, rfl, Std.le_refl right⟩
  | some a => exact ⟨min a right, rfl, Std.min_le_right⟩

end

end Location

open Location

section

variable {α : Type}

/-- The place is the own location of something that steps lead to. -/
def OnPath (own : α -> Location) (steps : α -> α -> Prop) (x : α) (place : UInt64) : Prop :=
  exists source : α, Relation.ReflTransGen steps x source ∧ own source = some place

variable {own : α -> Location} {steps : α -> α -> Prop} {x child : α}

theorem among_onPath_self (x : α) : (own x).Among (OnPath own steps x) :=
  fun _ hplace => ⟨x, .refl, hplace⟩

theorem Location.Among.of_step {location : Location} (hstep : steps x child)
    (hchild : location.Among (OnPath own steps child)) : location.Among (OnPath own steps x) := by
  intro place hplace
  rcases hchild place hplace with ⟨source, hpath, hsource⟩
  exact ⟨source, hpath.head hstep, hsource⟩

/-!
# The rules for one node
-/

variable {limit depth : Nat} {fails : TreeError -> Prop} {places : UInt64 -> Prop}

theorem ends_firstKnown {locationOf : α -> Lookup Location} {xs : List α}
    (heach : forall x : α, x ∈ xs -> Ends limit depth (locationOf x) (Among · places) fails) :
    Ends limit depth (firstKnown locationOf xs) (Among · places) fails := by
  induction xs with
  | nil => exact ends_pure among_none
  | cons x rest ih =>
      rw [List.forall_mem_cons] at heach
      apply heach.left.bind
      intro location hlocation
      cases location with
      | none => exact ih heach.right
      | some place => exact ends_pure hlocation

theorem ends_ofOption {locationOf : α -> Lookup Location} {x : Option α}
    (hsome : forall y : α, y ∈ x.toList -> Ends limit depth (locationOf y) (Among · places) fails) :
    Ends limit depth (ofOption locationOf x) (Among · places) fails := by
  cases x with
  | none => exact ends_pure among_none
  | some y => exact hsome y List.mem_cons_self

/-- The location is one of the places, and not to the right of the token if that counts. -/
structure Stands (places : UInt64 -> Prop) (counts : Prop) (token location : Location) : Prop where
  real : location.Among places
  notAfter : counts -> location.NotAfter token

variable {counts : Prop} {token : Location}

theorem ends_token (htoken : token.Among places) :
    Ends limit depth (pure token : Lookup Location) (Stands places counts token) fails :=
  ends_pure ⟨htoken, fun _ => notAfter_self token⟩

theorem Ends.withoutToken {lookup : Lookup Location}
    (hlookup : Ends limit depth lookup (Among · places) fails) :
    Ends limit depth lookup (Stands places counts none) fails :=
  hlookup.mono fun location hlocation => ⟨hlocation, fun _ => notAfter_none location⟩

theorem Ends.tokenLeft {lookup : Lookup Location}
    (hlookup : Ends limit depth lookup (Among · places) fails) (htoken : token.Among places) :
    Ends limit depth (lookup >>= fun location => pure (leftmost token location))
      (Stands places counts token) fails :=
  hlookup.map fun location hlocation =>
    ⟨htoken.leftmost hlocation, fun _ => leftmost_notAfter_left token location⟩

theorem Ends.tokenRight {lookup : Lookup Location}
    (hlookup : Ends limit depth lookup (Among · places) fails) (htoken : token.Among places) :
    Ends limit depth (lookup >>= fun location => pure (leftmost location token))
      (Stands places counts token) fails :=
  hlookup.map fun location hlocation =>
    ⟨hlocation.leftmost htoken, fun _ => leftmost_notAfter_right location token⟩

end

/-!
# Analyzed nodes
-/

namespace Node

/-- The location that a node has by itself, if its kind has any. -/
def ownLocation : Node -> Location
  | .var data => data.location
  | .const data => data.location
  | .param data => data.location
  | .aggref data .. => data.location
  | .groupingFunc data _ => data.location
  | .windowFunc data .. => data.location
  | .funcExpr data _ => data.location
  | .namedArgExpr data _ => data.location
  | .opExpr data _ => data.location
  | .distinctExpr data _ => data.location
  | .nullIfExpr data _ => data.location
  | .scalarArrayOpExpr data _ => data.location
  | .boolExpr data _ => data.location
  | .subLink data .. => data.location
  | .relabelType data _ => data.location
  | .coerceViaInOut data _ => data.location
  | .arrayCoerceExpr data _ => data.location
  | .convertRowtypeExpr data _ => data.location
  | .collateExpr data _ => data.location
  | .caseExpr data .. => data.location
  | .arrayExpr data _ => data.location
  | .rowExpr data _ => data.location
  | .coalesceExpr data _ => data.location
  | .minMaxExpr data _ => data.location
  | .xmlExpr data .. => data.location
  | .nullTest data _ => data.location
  | .booleanTest data _ => data.location
  | .coerceToDomain data _ => data.location
  | .coerceToDomainValue data => data.location
  | .setToDefault data => data.location
  | .commonTableExpr data _ => data.location
  | .arrayRef .. | .fieldSelect .. | .fieldStore .. | .caseTestExpr .. | .rowCompareExpr ..
  | .currentOfExpr .. | .inferenceElem .. | .targetEntry .. | .rangeTblRef .. | .joinExpr ..
  | .fromExpr .. | .onConflictExpr .. | .setOperationStmt .. | .sortGroupClause ..
  | .windowClause .. | .withCheckOption .. | .rangeTblFunction .. | .tableSampleClause ..
  | .query .. | .rangeTblEntry .. | .list .. => none

/-- A step to a child, which does not lead into a query. -/
def StepsTo (node child : Node) : Prop :=
  node.tag ≠ .query ∧ child ∈ node.children

/-- The place is the own location of the node or of one that child steps lead to. -/
def Holds (node : Node) : UInt64 -> Prop :=
  OnPath ownLocation StepsTo node

theorem ends_locationWith {limit depth : Nat} {fails : TreeError -> Prop}
    {places : UInt64 -> Prop} {locationOf : Node -> Lookup Location} {node : Node}
    (hown : node.ownLocation.Among places)
    (hbelow : forall child : Node, node.StepsTo child ->
      Ends limit depth (locationOf child) (Among · places) fails) :
    Ends limit depth (node.locationWith locationOf)
      (Stands places (node.tag ≠ .collateExpr) node.ownLocation) fails := by
  have hchildren : forall child : Node, child ∈ node.children ->
      Ends limit depth (locationOf child) (Among · places) fails :=
    fun child hchild => hbelow child ⟨(plain_of_mem_children hchild).left, hchild⟩
  cases node with
  | collateExpr data arg =>
      apply (hchildren arg List.mem_cons_self).mono
      intro location hlocation
      exact ⟨hlocation, fun hcounts => absurd rfl hcounts⟩
  | list items => exact (ends_firstKnown hchildren).withoutToken
  | rowCompareExpr data leftArgs rightArgs =>
      apply Ends.withoutToken
      apply ends_firstKnown
      intro arg harg
      exact hchildren arg (List.mem_append_left _ harg)
  | arrayRef data upperIndex lowerIndex expr assignExpr =>
      apply Ends.withoutToken
      apply hchildren expr
      exact List.mem_append_left _ (List.mem_append_right _ List.mem_cons_self)
  | fieldSelect | fieldStore | inferenceElem | targetEntry =>
      exact (hchildren _ List.mem_cons_self).withoutToken
  | xmlExpr data namedArgs args =>
      refine Ends.tokenLeft (ends_firstKnown ?_) hown
      intro arg harg
      exact hchildren arg (List.mem_append_right _ harg)
  | funcExpr | opExpr | distinctExpr | nullIfExpr | scalarArrayOpExpr | boolExpr =>
      exact (ends_firstKnown hchildren).tokenLeft hown
  | namedArgExpr | relabelType | coerceViaInOut | arrayCoerceExpr | convertRowtypeExpr
  | nullTest | booleanTest | coerceToDomain =>
      exact (hchildren _ List.mem_cons_self).tokenLeft hown
  | subLink data testExpr subselect =>
      refine Ends.tokenRight (ends_ofOption ?_) hown
      intro test htest
      exact hchildren test (List.mem_append_left _ htest)
  -- the other kinds answer with their own location, if they have any
  | _ => exact ends_token hown

end Node

/-!
# Raw nodes
-/

namespace RawNode

/-- The location that a raw node has by itself, if its kind has any. -/
def ownLocation : RawNode -> Location
  | .paramRef data => data.location
  | .aConst data => data.location
  | .rangeVar data _ => data.location
  | .groupingFunc location _ => location
  | .subLink data .. => data.location
  | .caseExpr location .. => location
  | .rowExpr data _ => data.location
  | .coalesceExpr location _ => location
  | .minMaxExpr data _ => data.location
  | .xmlExpr data .. => data.location
  | .nullTest data _ => data.location
  | .booleanTest data _ => data.location
  | .aExpr data .. => data.location
  | .columnRef location _ => location
  | .funcCall data .. => data.location
  | .namedArgExpr data _ => data.location
  | .aArrayExpr location _ => location
  | .resTarget data .. => data.location
  | .typeCast location .. => location
  | .collateClause data _ => data.location
  | .sortBy data _ => data.location
  | .windowDef data .. => data.location
  | .rangeTableSample data .. => data.location
  | .typeName data .. => data.location
  | .columnDef data .. => data.location
  | .groupingSet data _ => data.location
  | .xmlSerialize data .. => data.location
  | .withClause data _ => data.location
  | .inferClause data .. => data.location
  | .onConflictClause data .. => data.location
  | .commonTableExpr data _ => data.location
  | .setToDefault data => data.location
  | .value .. | .aStar | .rangeAlias .. | .joinExpr .. | .intoClause .. | .insertStmt ..
  | .deleteStmt .. | .updateStmt .. | .selectStmt .. | .aIndices .. | .aIndirection ..
  | .multiAssignRef .. | .rangeSubselect .. | .rangeFunction .. | .indexElem ..
  | .lockingClause .. | .currentOfExpr .. | .list .. => none

/-- A step to a child. -/
def StepsTo (node child : RawNode) : Prop :=
  child ∈ node.children

/-- The place is the own location of the node or of one that child steps lead to. -/
def Holds (node : RawNode) : UInt64 -> Prop :=
  OnPath ownLocation StepsTo node

theorem ends_locationWith {limit depth : Nat} {fails : TreeError -> Prop}
    {places : UInt64 -> Prop} {locationOf : RawNode -> Lookup Location} {node : RawNode}
    (hown : node.ownLocation.Among places)
    (hbelow : forall child : RawNode, node.StepsTo child ->
      Ends limit depth (locationOf child) (Among · places) fails) :
    Ends limit depth (node.locationWith locationOf)
      (Stands places (node.tag ≠ .collateClause ∧ node.tag ≠ .sortBy) node.ownLocation) fails := by
  cases node with
  | collateClause data arg =>
      apply Ends.mono (ends_ofOption hbelow)
      intro location hlocation
      exact ⟨hlocation, fun hcounts => absurd rfl hcounts.left⟩
  | sortBy data key =>
      apply (hbelow key List.mem_cons_self).mono
      intro location hlocation
      exact ⟨hlocation, fun hcounts => absurd rfl hcounts.right⟩
  | list items => exact (ends_firstKnown hbelow).withoutToken
  | intoClause | multiAssignRef => exact (hbelow _ List.mem_cons_self).withoutToken
  | aExpr data lexpr rexpr =>
      refine Ends.tokenLeft (ends_ofOption ?_) hown
      intro left hleft
      exact hbelow left (List.mem_append_left _ hleft)
  | xmlExpr data namedArgs args =>
      refine Ends.tokenLeft (ends_firstKnown ?_) hown
      intro arg harg
      exact hbelow arg (List.mem_append_right _ harg)
  | funcCall data args aggOrder aggFilter window =>
      refine Ends.tokenLeft (ends_firstKnown ?_) hown
      intro arg harg
      apply hbelow arg
      exact List.mem_append_left _ (List.mem_append_left _ (List.mem_append_left _ harg))
  | nullTest | booleanTest | namedArgExpr =>
      exact (hbelow _ List.mem_cons_self).tokenLeft hown
  | subLink data testExpr subselect =>
      refine Ends.tokenRight (ends_ofOption ?_) hown
      intro test htest
      exact hbelow test (List.mem_append_left _ htest)
  | typeCast token arg type =>
      apply (hbelow arg List.mem_cons_self).bind
      intro argLocation harg
      apply (hbelow type (List.mem_cons_of_mem _ List.mem_cons_self)).map
      intro typeLocation htype
      exact ⟨(harg.leftmost htype).leftmost hown, fun _ => leftmost_notAfter_right _ token⟩
  -- the other kinds answer with their own location, if they have any
  | _ => exact ends_token hown

end RawNode

/-!
# Whole trees
-/

section

variable {α : Type} {own : α -> Location} {steps : α -> α -> Prop}
  {rule : (α -> Lookup Location) -> α -> Lookup Location}

/-- The location of a tree stands as it should, if the rule for one node takes it from the
places of the node and of its children. -/
theorem stands_of_answer (counts : α -> Prop)
    (hrule : forall (places : UInt64 -> Prop) (locationOf : α -> Lookup Location) (x : α)
        (limit depth : Nat), (own x).Among places ->
      (forall child : α, steps x child ->
        Ends limit depth (locationOf child) (Among · places) fun _ => True) ->
      Ends limit depth (rule locationOf x) (Stands places (counts x) (own x)) fun _ => True)
    {x : α} {nesting : Nesting} {location : Location}
    (hanswer : Lookup.answer
      (recurse (fun locationOf x => guarded (rule locationOf x)) x) nesting = .ok location) :
    Stands (OnPath own steps x) (counts x) (own x) location := by
  have hends : Ends nesting.limit nesting.depth
      (recurse (fun locationOf x => guarded (rule locationOf x)) x : Lookup Location)
      (Stands (OnPath own steps x) (counts x) (own x)) fun _ => True := by
    apply Ends.recurse (fun _ _ => True)
      (fun x _ => Stands (OnPath own steps x) (counts x) (own x)) _ trivial
    intro locationOf depth hvisit x _
    apply Ends.guarded fun _ => trivial
    intro hlimit
    apply hrule _ _ _ _ _ (among_onPath_self x)
    -- what is found from a child is on a path from here, one step longer
    intro child hstep
    apply (hvisit child (depth + 1) (Nat.lt_succ_self depth) hlimit trivial).mono
    intro found hfound
    exact hfound.real.of_step hstep
  exact hends.of_answer_ok hanswer

end

/-- Every location that is found is held by the node that was asked or by one that child steps
lead to, without going into a query.  It is not to the right of the own location of the node,
unless that is an explicit collation or, in a raw tree, a sort key. -/
theorem exprLocation_held_and_notAfter (nesting : Nesting) (location : Location) :
    (forall node : Node, node.exprLocation.answer nesting = .ok location ->
      location.Among node.Holds ∧
        (node.tag ≠ .collateExpr -> location.NotAfter node.ownLocation)) ∧
      forall raw : RawNode, raw.exprLocation.answer nesting = .ok location ->
        location.Among raw.Holds ∧
          (raw.tag ≠ .collateClause -> raw.tag ≠ .sortBy ->
            location.NotAfter raw.ownLocation) := by
  constructor
  · intro node hanswer
    have hstands := stands_of_answer (fun node : Node => node.tag ≠ .collateExpr)
      (fun _ _ _ _ _ hown hbelow => Node.ends_locationWith hown hbelow) hanswer
    exact ⟨hstands.real, hstands.notAfter⟩
  · intro raw hanswer
    have hstands := stands_of_answer
      (fun raw : RawNode => raw.tag ≠ .collateClause ∧ raw.tag ≠ .sortBy)
      (fun _ _ _ _ _ hown hbelow => RawNode.ends_locationWith hown hbelow) hanswer
    exact ⟨hstands.real, fun hcollate hsort => hstands.notAfter ⟨hcollate, hsort⟩⟩

/-- The comparison in `name COLLATE "C" = $1`. -/
def Node.collatedMatch : Node :=
  .opExpr
    { opOid := 98, funcOid := 67, resultType := BuiltinType.bool.toOid, returnsSet := false,
      collation := Oid.invalid, inputCollation := 950, location := some 17 }
    [.collateExpr { collation := 950, location := some 5 }
      (.var
        { rtindex := 1, attno := 1, typeOid := BuiltinType.text.toOid, typmod := -1,
          collation := Collation.default, levelsUp := 0, location := some 0 }),
    .param
      { kind := .external, id := 1, typeOid := BuiltinType.text.toOid, typmod := -1,
        collation := Collation.default, location := some 19 }]

/-- The cast in `$1::numeric`. -/
def RawNode.numericCast : RawNode :=
  .typeCast (some 2) (.paramRef { number := 1, location := some 0 })
    (.typeName { names := ["numeric"], setof := false, pctType := false, location := some 4 } [] [])

/-- Both stand where their first operand does, to the left of their own sign. -/
theorem exprLocation_held_and_notAfter_leftOperand :
    Node.collatedMatch.exprLocation.answer (.start 3) = .ok (some 0) ∧
      Node.collatedMatch.tag ≠ .collateExpr ∧
      Location.Among (some 0) Node.collatedMatch.Holds ∧
      Location.NotAfter (some 0) (some 17) ∧
      RawNode.numericCast.exprLocation.answer (.start 3) = .ok (some 0) ∧
      RawNode.numericCast.tag ≠ .collateClause ∧ RawNode.numericCast.tag ≠ .sortBy ∧
      Location.Among (some 0) RawNode.numericCast.Holds ∧
      Location.NotAfter (some 0) (some 2) := by
  have hmatch : Node.collatedMatch.exprLocation.answer (.start 3) = .ok (some 0) := rfl
  have hcast : RawNode.numericCast.exprLocation.answer (.start 3) = .ok (some 0) := rfl
  rcases exprLocation_held_and_notAfter (.start 3) (some 0) with ⟨hnodes, hraw⟩
  rcases hnodes _ hmatch with ⟨hheld, hbound⟩
  rcases hraw _ hcast with ⟨hrawHeld, hrawBound⟩
  exact ⟨hmatch, nofun, hheld, hbound nofun, hcast, nofun, nofun, hrawHeld, hrawBound nofun nofun⟩

end QueryTree
