import QueryTree.Attribute.Collation
import QueryTree.Attribute.Location
import QueryTree.Attribute.ReturnsSet
import QueryTree.Attribute.Typmod
import QueryTree.Proofs.ChildTraversal
import QueryTree.Proofs.CoercionChains
import QueryTree.Proofs.LocalTypes
import QueryTree.Proofs.Sameness
import QueryTree.Proofs.Scopes

/-!
# Trees that cannot be told apart

Lookups and walks do not notice how many places a decimal is written with, however deep in
a tree it stands.  They are recursions over nodes, so it is enough that one step does not
tell two trees that are the same apart as long as the recursive calls do not.  Most kinds
answer from their own fields; these are kept when the slots of a node are refilled, so only
the kinds that ask a node below have something to show.
-/

namespace QueryTree

open Traversal

variable {α : Type}

/-!
# Parts of trees that are the same
-/

/-- Clauses, range tables and `WITH` lists are the same in queries that are the same. -/
theorem Query.lists_of_same {q other : Query} (hsame : q.same other = true) :
    sameList q.clauses other.clauses = true ∧ sameList q.rtable other.rtable = true ∧
      sameList q.cteList other.cteList = true ∧
      sameList q.targetList other.targetList = true := by
  cases q
  cases other
  simp only [same, Bool.and_eq_true] at hsame
  simp [clauses, sameList_append_append, sameList_toList, hsame]

theorem sameList_unless (skip : Bool) {nodes others : List Node}
    (hsame : sameList nodes others = true) :
    sameList (if skip then [] else nodes) (if skip then [] else others) = true := by
  split
  · rfl
  · exact hsame

theorem RteKind.contents_of_same (scope : Scope) {kind other : RteKind}
    (hsame : kind.same other = true) :
    sameList (kind.contents scope) (other.contents scope) = true := by
  have hrefill := (parts_of_same hsame []).left
  obtain ⟨supply, rfl⟩ : exists supply : List Node, other = (kind.refill .everything supply).1 :=
    ⟨_, (congrArg Prod.fst hrefill).symm⟩
  cases kind with
  | relation => exact sameList_toList (Bool.and_eq_true_iff.mp hsame).right
  | subquery =>
      have hinner := (Bool.and_eq_true_iff.mp hsame).left
      exact sameList_unless scope.skipSubqueries (sameList_iff.mpr (.cons hinner .nil))
  | join => exact sameList_unless scope.skipJoinAliases (Bool.and_eq_true_iff.mp hsame).right
  | function | values => exact (Bool.and_eq_true_iff.mp hsame).left
  | cte => rfl

theorem RangeTblEntry.contents_of_same (scope : Scope) {entry other : RangeTblEntry}
    (hsame : entry.same other = true) :
    sameList (entry.contents scope) (other.contents scope) = true := by
  cases entry
  cases other
  simp only [same, Bool.and_eq_true] at hsame
  rw [contents, contents, sameList_append_append (RteKind.contents_of_same scope hsame.left.left)]
  exact hsame.right

theorem isEmpty_of_same {nodes others : List Node} (hsame : sameList nodes others = true) :
    nodes.isEmpty = others.isEmpty := by
  rcases sameList_iff.mp hsame with _ | _
  · rfl
  · rfl

theorem isSome_of_same {slot other : Option Node} (hsame : sameOption slot other = true) :
    slot.isSome = other.isSome := by
  rcases sameOption_iff.mp hsame with _ | _
  · rfl
  · rfl

theorem sameOption_head? {nodes others : List Node} (hsame : sameList nodes others = true) :
    sameOption nodes.head? others.head? = true := by
  rcases sameList_iff.mp hsame with _ | ⟨hfirst, _⟩
  · rfl
  · exact hfirst

theorem sameOption_ite {condition : Prop} [Decidable condition] {slot other : Option Node}
    (hsame : sameOption slot other = true) :
    sameOption (if condition then slot else none) (if condition then other else none) = true := by
  split
  · exact hsame
  · rfl

namespace Node

theorem query_of_same {q : Query} {other : Node} (hsame : (Node.query q).same other = true) :
    exists new : Query, other = .query new ∧ q.same new = true := by
  cases other with
  | query new => exact ⟨new, rfl, hsame⟩
  | _ => cases hsame

theorem rangeTblEntry_of_same {entry : RangeTblEntry} {other : Node}
    (hsame : (Node.rangeTblEntry entry).same other = true) :
    exists new : RangeTblEntry, other = .rangeTblEntry new ∧ entry.same new = true := by
  cases other with
  | rangeTblEntry new => exact ⟨new, rfl, hsame⟩
  | _ => cases hsame

/-- Cases by the way in which a node was made into one that is the same: a constant got the
same value, or another node the same in its slots. -/
@[elab_as_elim] theorem byRefilling
    {motive : forall node other : Node, node.same other = true -> Prop}
    (const : forall (data : Const) (value : Datum) (hvalue : data.value.same value = true),
      motive (.const data) (.const { data with value })
        (same_const_iff.mpr ⟨value, rfl, hvalue⟩))
    (refilled : forall (node : Node) (supply : List Node)
      (hsame : node.same (node.withSlots supply) = true),
      motive node (node.withSlots supply) hsame)
    (node other : Node) (hsame : node.same other = true) : motive node other hsame := by
  induction node using byConst with
  | const data =>
      rcases same_const_iff.mp hsame with ⟨value, rfl, hvalue⟩
      exact const data value hvalue
  | other node hconst =>
      have hother := ((same_iff hconst).mp hsame).left
      revert hsame
      rw [← hother]
      exact refilled node other.slots

theorem slots_of_same {node other : Node} (hsame : node.same other = true) :
    sameList node.slots other.slots = true := by
  induction node using byConst with
  | const data =>
      rcases same_const_iff.mp hsame with ⟨value, rfl, _⟩
      rfl
  | other node hconst => exact sameList_iff.mpr ((same_iff hconst).mp hsame).right

theorem groupKeys_of_tag_ne {node : Node} (htag : node.tag ≠ .setOperationStmt) :
    node.groupKeys = [] := by
  cases node with
  | setOperationStmt data left right groupClauses => exact absurd rfl htag
  | _ => rfl

theorem children_of_same {node other : Node} (hsame : node.same other = true) :
    sameList node.children other.children = true := by
  by_cases hkeys : node.tag = .setOperationStmt
  · cases node with
    | setOperationStmt data left right groupClauses =>
        unfold Node.same at hsame
        split at hsame
        · simp only [Bool.and_eq_true] at hsame
          simp [children, sameList, hsame]
        · cases hsame
    | _ => cases hkeys
  · -- without keys to group by, what a node holds is what a walk shows
    induction node using byParts with
    | query q =>
        rcases query_of_same hsame with ⟨new, rfl, _⟩
        rfl
    | entry entry =>
        rcases rangeTblEntry_of_same hsame with ⟨new, rfl, _⟩
        rfl
    | plain node hplain =>
        have htag := tag_of_same hsame
        have hslots := slots_of_same hsame
        rw [slots_of_plain hplain, groupKeys_of_tag_ne hkeys, List.append_nil] at hslots
        rw [← htag] at hkeys
        rw [Plain, ← htag] at hplain
        rwa [slots_of_plain hplain, groupKeys_of_tag_ne hkeys, List.append_nil] at hslots

/-!
# Functions that see no difference
-/

/-- The function has the same value at trees that are the same. -/
def Blind (f : Node -> α) : Prop :=
  forall ⦃node other : Node⦄, node.same other = true -> f node = f other

theorem blind_inputCollation : Blind inputCollation := by
  intro node other hsame
  induction node, other, hsame using byRefilling with
  | const data value hvalue => rfl
  | refilled node supply hsame => cases node <;> rfl

theorem blind_isSetReturning : Blind isSetReturning := by
  intro node other hsame
  induction node, other, hsame using byRefilling with
  | const data value hvalue => rfl
  | refilled node supply hsame => cases node <;> rfl

/-!
# Coercions
-/

/-- The value of an integer constant. -/
def int4Const? : Node -> Option Int32
  | .const data => if data.typeOid = BuiltinType.int4.toOid then data.value.int4? else none
  | _ => none

theorem blind_int4Const? : Blind int4Const? := by
  intro node other hsame
  induction node, other, hsame using byRefilling with
  | const data value hvalue => rw [int4Const?, int4Const?, Datum.int4?_of_same hvalue]
  | refilled node supply hsame => cases node <;> rfl

theorem lengthCoercion?_funcExpr (data : FuncExpr) (args : List Node) :
    (Node.funcExpr data args).lengthCoercion? =
      if data.format = .explicitCast ∨ data.format = .implicitCast then
        match args with
        | [_, second] | [_, second, _] => second.int4Const?
        | _ => none
      else none := by
  match args with
  | [] | [_] => rfl
  | [_, second] | [_, second, _] | _ :: second :: _ :: _ :: _ => cases second <;> rfl

theorem blind_lengthCoercion? : Blind lengthCoercion? := by
  intro node other hsame
  induction node, other, hsame using byRefilling with
  | const data value hvalue => rfl
  | refilled node supply hsame =>
      cases node with
      | funcExpr data args =>
          have hargs := sameList_iff.mp (Bool.and_eq_true_iff.mp hsame).right
          show _ = (Node.funcExpr data (supply.take args.length)).lengthCoercion?
          rw [lengthCoercion?_funcExpr, lengthCoercion?_funcExpr]
          generalize supply.take args.length = others at hargs
          congr 1
          -- only the second of two or three arguments counts
          rcases hargs with _ | ⟨_, _ | ⟨hsecond, _ | ⟨_, _ | _⟩⟩⟩
          · rfl
          · rfl
          · exact blind_int4Const? hsecond
          · exact blind_int4Const? hsecond
          · rfl
      | _ => rfl

theorem implicitArg?_of_same {node other : Node} (hsame : node.same other = true) :
    sameOption node.implicitArg? other.implicitArg? = true := by
  induction node, other, hsame using byRefilling with
  | const data value hvalue => rfl
  | refilled node supply hsame =>
      cases node with
      | funcExpr =>
          have hargs := (Bool.and_eq_true_iff.mp hsame).right
          exact sameOption_ite (sameOption_head? hargs)
      | relabelType | coerceViaInOut | arrayCoerceExpr | convertRowtypeExpr | coerceToDomain =>
          have harg := (Bool.and_eq_true_iff.mp hsame).right
          exact sameOption_ite harg
      | _ => rfl

theorem stripImplicit_of_same {node other : Node} (hsame : node.same other = true) :
    node.stripImplicit.same other.stripImplicit = true := by
  induction node using stripImplicit.induct generalizing other with
  | case1 node arg harg _hsize ih =>
      have hargs := sameOption_iff.mp (implicitArg?_of_same hsame)
      rw [harg] at hargs
      generalize hother : other.implicitArg? = new at hargs
      cases hargs with
      | some hnew =>
          rw [stripImplicit_of_peelsTo (implicitArg?_eq_some_iff.mp harg),
            stripImplicit_of_peelsTo (implicitArg?_eq_some_iff.mp hother)]
          exact ih hnew
  | case2 node hnone =>
      have hargs := sameOption_iff.mp (implicitArg?_of_same hsame)
      rw [hnone] at hargs
      generalize hother : other.implicitArg? = new at hargs
      cases hargs with
      | none => rwa [stripImplicit_eq_self hnone, stripImplicit_eq_self hother]

/-!
# Lookups
-/

theorem columnExpr?_of_same {node other : Node} (hsame : node.same other = true) :
    sameOption node.columnExpr? other.columnExpr? = true := by
  induction node, other, hsame using byRefilling with
  | const data value hvalue => rfl
  | refilled node supply hsame =>
      cases node with
      | targetEntry => exact (Bool.and_eq_true_iff.mp hsame).right
      | _ => rfl

theorem subLinkTarget_of_tag_ne {subselect : Node} (htag : subselect.tag ≠ .query) :
    subLinkTarget subselect = raise .unanalyzedSubLink := by
  cases subselect with
  | query q => exact absurd rfl htag
  | _ => rfl

theorem subLinkTarget_query (q : Query) :
    subLinkTarget (.query q) =
      match q.targetList with
      | [] => raise .unanalyzedSubLink
      | first :: _ =>
          match first.columnExpr? with
          | some expr => pure expr
          | none => raise (.unrecognizedNode first.tag .subLinkTarget) := by
  rcases q with ⟨_, _, _, _, _ | ⟨first, rest⟩⟩
  · rfl
  · cases first <;> rfl

namespace Blind

variable {σ ε : Type} [OfTreeError ε]

/-- A recursion sees no difference if its step sees none as long as the recursion does not. -/
theorem recurse {step : (Node -> Traversal σ ε α) -> Node -> Traversal σ ε α}
    (hstep : forall visit : Node -> Traversal σ ε α, Blind visit -> Blind (step visit)) :
    Blind (Traversal.recurse step) := by
  intro node other hsame
  apply recurse_congr
  intro levels
  induction levels generalizing node other with
  | zero => rfl
  | succ levels ih => exact hstep _ ih hsame

/-- In particular if a rule is asked one level deeper. -/
theorem byRule {rule : (Node -> Lookup α) -> Node -> Lookup α}
    (hrule : forall visit : Node -> Lookup α, Blind visit -> Blind (rule visit)) :
    Blind (Lookup.byRule rule) := by
  apply Blind.recurse
  intro visit hvisit node other hsame
  exact congrArg guarded (hrule visit hvisit hsame)

theorem subLinkTarget {f : Node -> Lookup α} (hf : Blind f) :
    Blind fun subselect => Node.subLinkTarget subselect >>= f := by
  intro node other hsame
  show Node.subLinkTarget node >>= f = Node.subLinkTarget other >>= f
  by_cases hquery : node.tag = .query
  · cases node with
    | query q =>
        rcases query_of_same hsame with ⟨new, rfl, hnew⟩
        rcases Query.lists_of_same hnew with ⟨_, _, _, htargets⟩
        rw [sameList_iff] at htargets
        rw [subLinkTarget_query, subLinkTarget_query]
        generalize q.targetList = targets, new.targetList = others at htargets ⊢
        cases htargets with
        | nil => rfl
        | @cons first other _ _ hfirst _ =>
            have hcolumns := sameOption_iff.mp (columnExpr?_of_same hfirst)
            have htag := tag_of_same hfirst
            simp only [htag]
            generalize first.columnExpr? = column, other.columnExpr? = otherColumn at hcolumns ⊢
            cases hcolumns with
            | some hexpr => exact hf hexpr
            | none => rfl
    | _ => cases hquery
  · have hother : other.tag ≠ .query := tag_of_same hsame ▸ hquery
    rw [subLinkTarget_of_tag_ne hquery, subLinkTarget_of_tag_ne hother]

theorem typeWith {typeOf : Node -> Lookup Oid} (htype : Blind typeOf) (catalog : Catalog) :
    Blind (Node.typeWith catalog typeOf) := by
  intro node other hsame
  induction node, other, hsame using byRefilling with
  | const data value hvalue => rfl
  | refilled node supply hsame =>
      cases node with
      | namedArgExpr | collateExpr | inferenceElem =>
          have harg := (Bool.and_eq_true_iff.mp hsame).right
          exact htype harg
      | arrayRef data upperIndex lowerIndex expr assignExpr =>
          rcases Bool.and_eq_true_iff.mp hsame with ⟨hindices, hassign⟩
          simp only [Bool.and_eq_true] at hindices
          have hlower := isEmpty_of_same hindices.left.right
          exact congrArg₂ (fun element assigned : Bool =>
            (if !element || assigned then pure data.arrayType else pure data.elementType :
              Lookup Oid)) hlower (isSome_of_same hassign)
      | subLink data testExpr subselect =>
          have hsubselect := (Bool.and_eq_true_iff.mp hsame).right
          -- the kind of link decides whether the sub-select is looked into
          rcases data with ⟨linkType, linkId, operName, location⟩
          cases linkType with
          | expr => exact htype.subLinkTarget hsubselect
          | array =>
              apply Blind.subLinkTarget _ hsubselect
              intro target new hnew
              exact congrArg (· >>= _) (htype hnew)
          | _ => rfl
      | _ => rfl

section

variable {typeOf : Node -> Lookup Oid} {typmodOf : Node -> Lookup Int32} (htype : Blind typeOf)
  (htypmod : Blind typmodOf)

include htype htypmod

/-- Arms are asked for their types in between, by a lookup of its own. -/
theorem allAgree (type : Oid) (typmod : Int32) {arms others : List Node}
    (hsame : sameList arms others = true) :
    Node.allAgree typeOf typmodOf type typmod arms =
      Node.allAgree typeOf typmodOf type typmod others := by
  rw [sameList_iff] at hsame
  induction hsame with
  | nil => rfl
  | cons harm _ ih =>
      rw [Node.allAgree, Node.allAgree, htype harm, htypmod harm, ih]

theorem commonTypmod (type : Oid) {arms others : List Node}
    (hsame : sameList arms others = true) :
    Node.commonTypmod typeOf typmodOf type arms =
      Node.commonTypmod typeOf typmodOf type others := by
  rw [sameList_iff] at hsame
  cases hsame with
  | nil => rfl
  | cons hfirst hrest =>
      simp only [Node.commonTypmod, htype hfirst, htypmod hfirst,
        htype.allAgree htypmod type _ (sameList_iff.mpr hrest)]

theorem typmodWith : Blind (Node.typmodWith typeOf typmodOf) := by
  intro node other hsame
  induction node, other, hsame using byRefilling with
  | const data value hvalue => rfl
  | refilled node supply hsame =>
      cases node with
      | funcExpr data args =>
          have hcoercion := blind_lengthCoercion? hsame
          exact congrArg (fun typmod : Option Int32 =>
            (pure (typmod.getD unknownTypmod) : Lookup Int32)) hcoercion
      | namedArgExpr | collateExpr | inferenceElem =>
          have harg := (Bool.and_eq_true_iff.mp hsame).right
          exact htypmod harg
      | nullIfExpr data args =>
          have hargs := sameList_iff.mp (Bool.and_eq_true_iff.mp hsame).right
          show _ = Node.typmodWith typeOf typmodOf (.nullIfExpr data (supply.take args.length))
          generalize supply.take args.length = others at hargs
          cases hargs with
          | nil => rfl
          | cons hfirst _ => exact htypmod hfirst
      | subLink data testExpr subselect =>
          have hsubselect := (Bool.and_eq_true_iff.mp hsame).right
          rcases data with ⟨linkType, linkId, operName, location⟩
          cases linkType with
          | expr | array => exact htypmod.subLinkTarget hsubselect
          | _ => rfl
      | caseExpr data arg whens otherwise =>
          -- the default counts as the first arm
          rcases Bool.and_eq_true_iff.mp hsame with ⟨hwhens, hotherwise⟩
          have hresults := sameList_results (Bool.and_eq_true_iff.mp hwhens).right
          cases otherwise with
          | none => rfl
          | some otherwise =>
              have harms : sameList (otherwise :: whens.map CaseWhen.result) (_ :: _) = true :=
                Bool.and_eq_true_iff.mpr ⟨hotherwise, hresults⟩
              exact htype.commonTypmod htypmod _ harms
      | arrayExpr | coalesceExpr | minMaxExpr =>
          have harms := (Bool.and_eq_true_iff.mp hsame).right
          exact htype.commonTypmod htypmod _ harms
      | _ => rfl

end

theorem collationWith {collationOf : Node -> Lookup Oid} (hcollation : Blind collationOf) :
    Blind (Node.collationWith collationOf) := by
  intro node other hsame
  induction node, other, hsame using byRefilling with
  | const data value hvalue => rfl
  | refilled node supply hsame =>
      cases node with
      | namedArgExpr | inferenceElem =>
          have harg := (Bool.and_eq_true_iff.mp hsame).right
          exact hcollation harg
      | subLink data testExpr subselect =>
          have hsubselect := (Bool.and_eq_true_iff.mp hsame).right
          rcases data with ⟨linkType, linkId, operName, location⟩
          cases linkType with
          | expr | array => exact hcollation.subLinkTarget hsubselect
          | _ => rfl
      | _ => rfl

section

variable {locationOf : Node -> Lookup Location} (hlocation : Blind locationOf)

include hlocation

theorem firstKnown {nodes others : List Node} (hsame : sameList nodes others = true) :
    Location.firstKnown locationOf nodes = Location.firstKnown locationOf others := by
  rw [sameList_iff] at hsame
  induction hsame with
  | nil => rfl
  | cons hfirst _ ih => rw [Location.firstKnown, Location.firstKnown, hlocation hfirst, ih]

theorem ofOption {slot other : Option Node} (hsame : sameOption slot other = true) :
    Location.ofOption locationOf slot = Location.ofOption locationOf other := by
  rcases sameOption_iff.mp hsame with hnode | _
  · exact hlocation hnode
  · rfl

theorem locationWith : Blind (Node.locationWith locationOf) := by
  intro node other hsame
  induction node, other, hsame using byRefilling with
  | const data value hvalue => rfl
  | refilled node supply hsame =>
      cases node with
      | arrayRef data upperIndex lowerIndex expr assignExpr =>
          have hexpr := (Bool.and_eq_true_iff.mp (Bool.and_eq_true_iff.mp hsame).left).right
          exact hlocation hexpr
      | funcExpr | opExpr | distinctExpr | nullIfExpr | scalarArrayOpExpr | boolExpr | xmlExpr =>
          have hargs := (Bool.and_eq_true_iff.mp hsame).right
          exact congrArg (· >>= _) (hlocation.firstKnown hargs)
      | namedArgExpr | relabelType | coerceViaInOut | arrayCoerceExpr | convertRowtypeExpr
      | nullTest | booleanTest | coerceToDomain =>
          have harg := (Bool.and_eq_true_iff.mp hsame).right
          exact congrArg (· >>= _) (hlocation harg)
      | subLink =>
          have htest := (Bool.and_eq_true_iff.mp (Bool.and_eq_true_iff.mp hsame).left).right
          exact congrArg (· >>= _) (hlocation.ofOption htest)
      | fieldSelect | collateExpr | inferenceElem | targetEntry =>
          have harg := (Bool.and_eq_true_iff.mp hsame).right
          exact hlocation harg
      | fieldStore =>
          have harg := (Bool.and_eq_true_iff.mp (Bool.and_eq_true_iff.mp hsame).left).right
          exact hlocation harg
      | rowCompareExpr =>
          have hleft := (Bool.and_eq_true_iff.mp (Bool.and_eq_true_iff.mp hsame).left).right
          exact hlocation.firstKnown hleft
      | list => exact hlocation.firstKnown hsame
      | _ => rfl

end

/-!
# Walks
-/

section

variable {visit : Visitor σ ε} (hvisit : Blind visit)

include hvisit

omit [OfTreeError ε] in
theorem visitAll {nodes others : List Node} (hsame : sameList nodes others = true) :
    Traversal.visitAll visit nodes = Traversal.visitAll visit others := by
  rw [sameList_iff] at hsame
  induction hsame with
  | nil => rfl
  | cons hfirst _ ih => rw [Traversal.visitAll, Traversal.visitAll, hvisit hfirst, ih]

theorem walkChildren : Blind (QueryTree.walkChildren visit) := by
  intro node other hsame
  by_cases hentry : node.tag = .rangeTblEntry
  · cases node with
    | rangeTblEntry entry =>
        rcases rangeTblEntry_of_same hsame with ⟨new, rfl, _⟩
        rfl
    | _ => cases hentry
  · have hother : other.tag ≠ .rangeTblEntry := tag_of_same hsame ▸ hentry
    rw [walkChildren_of_tag_ne hentry, walkChildren_of_tag_ne hother,
      hvisit.visitAll (children_of_same hsame)]

theorem walkEntry (scope : Scope) : Blind (QueryTree.walkEntry visit scope) := by
  intro node other hsame
  by_cases hentry : node.tag = .rangeTblEntry
  · cases node with
    | rangeTblEntry entry =>
        rcases rangeTblEntry_of_same hsame with ⟨new, rfl, hnew⟩
        rw [walkEntry_rangeTblEntry, walkEntry_rangeTblEntry, hvisit hsame,
          hvisit.visitAll (RangeTblEntry.contents_of_same scope hnew)]
    | _ => cases hentry
  · have htag := tag_of_same hsame
    have hother : other.tag ≠ .rangeTblEntry := htag ▸ hentry
    rw [QueryTree.walkEntry, QueryTree.walkEntry, expectEntry_of_tag_ne hentry,
      expectEntry_of_tag_ne hother, htag, hvisit hsame]

theorem walkBelow (scope : Scope) : Blind (QueryTree.walkBelow visit scope) := by
  intro node other hsame
  induction node using byParts with
  | query q =>
      rcases query_of_same hsame with ⟨new, rfl, hnew⟩
      rcases Query.lists_of_same hnew with ⟨hclauses, hrtable, hctes, _⟩
      show walkQuery visit scope q = walkQuery visit scope new
      rw [walkQuery, walkQuery, walkRangeTable, walkRangeTable, hvisit.visitAll hclauses,
        (hvisit.walkEntry scope).visitAll hrtable, hvisit.visitAll hctes]
  | entry entry =>
      rcases rangeTblEntry_of_same hsame with ⟨new, rfl, _⟩
      rfl
  | plain node hplain =>
      have hother : other.Plain := by
        rw [Plain, tag_of_same hsame]
        exact hplain
      rw [walkBelow_of_plain hplain, walkBelow_of_plain hother,
        hvisit.visitAll (children_of_same hsame)]

end

/-- A walk sees no difference unless its callback does. -/
theorem walkTree {callback : Visitor σ ε} (hcallback : Blind callback) (scope : Scope) :
    Blind (QueryTree.walkTree callback scope) := by
  apply Blind.recurse
  intro visit hvisit node other hsame
  exact congrArg₂ andThen (hcallback hsame) (hvisit.walkBelow scope hsame)

end Blind

theorem blind_exprType (catalog : Catalog) : Blind (exprType catalog) := by
  apply Blind.byRule
  intro typeOf htype
  exact htype.typeWith catalog

theorem blind_exprTypmod (catalog : Catalog) : Blind (exprTypmod catalog) := by
  apply Blind.byRule
  intro typmodOf htypmod
  exact (blind_exprType catalog).typmodWith htypmod

theorem blind_exprCollation : Blind exprCollation := by
  apply Blind.byRule
  intro collationOf hcollation
  exact hcollation.collationWith

theorem blind_exprLocation : Blind exprLocation := by
  apply Blind.byRule
  intro locationOf hlocation
  exact hlocation.locationWith

theorem blind_findSetReturning : Blind findSetReturning := by
  apply Blind.recurse
  intro visit hvisit node other hsame
  show (if node.isSetReturning then _ else _) = _
  rw [blind_isSetReturning hsame, ← tag_of_same hsame, hvisit.walkChildren hsame]

theorem blind_caption : Blind caption := by
  intro node other hsame
  exact (caption_of_same hsame).symm

/-- Nothing that is computed of the two trees tells them apart.  Lookups and walks are
compared as computations, so they agree from every nesting, and in the way they fail.  The
callback of a walk may keep a state, and decides by labels and depths. -/
structure Indistinguishable (node other : Node) : Prop where
  type : forall catalog : Catalog, node.exprType catalog = other.exprType catalog
  typmod : forall catalog : Catalog, node.exprTypmod catalog = other.exprTypmod catalog
  collation : node.exprCollation = other.exprCollation
  inputCollation : node.inputCollation = other.inputCollation
  location : node.exprLocation = other.exprLocation
  lengthCoercion : node.lengthCoercion? = other.lengthCoercion?
  returnsSet : node.returnsSet = other.returnsSet
  labels : forall {σ ε : Type} [OfTreeError ε]
    (reply : Reply (Tag × Option String) σ ε Control) (scope : Scope),
    walkTree (fun shown => reply.run shown.caption) scope node =
      walkTree (fun shown => reply.run shown.caption) scope other
  stripped : node.stripImplicit.same other.stripImplicit = true

theorem indistinguishable_of_same {node other : Node} (hsame : node.same other = true) :
    node.Indistinguishable other where
  type catalog := blind_exprType catalog hsame
  typmod catalog := blind_exprTypmod catalog hsame
  collation := blind_exprCollation hsame
  inputCollation := blind_inputCollation hsame
  location := blind_exprLocation hsame
  lengthCoercion := blind_lengthCoercion? hsame
  returnsSet := by
    rw [returnsSet, returnsSet, blind_findSetReturning hsame]
  labels reply scope := by
    have hreply : Blind fun shown => reply.run shown.caption := by
      intro shown new hnew
      exact congrArg reply.run (blind_caption hnew)
    exact hreply.walkTree scope hsame
  stripped := stripImplicit_of_same hsame

end Node

/-- Sameness is an equivalence among trees without floating-point constants, in which
decimals count as numbers, and trees that are the same cannot be told apart. -/
theorem same_congruence {node : Node} (hexact : node.Exact) (other third : Node) :
    node.same node = true ∧
      (node.same other = true -> other.same node = true) ∧
      (node.same other = true -> other.same third = true -> node.same third = true) ∧
      (node.same other = true -> node.Indistinguishable other) ∧
      forall (data : Const) (x y : Decimal),
        (Node.const { data with value := .numeric x }).same
            (.const { data with value := .numeric y }) = true <->
          x.value = y.value := by
  refine ⟨node.same_self hexact, Node.same_symm hexact, Node.same_trans hexact,
    Node.indistinguishable_of_same, ?_⟩
  intro data x y
  calc
    _ <-> { data with value := .numeric y } = { data with value := .numeric y } ∧
        (Datum.numeric x).same (.numeric y) = true := Const.same_iff
    _ <-> x.sameValue y = true := and_iff_right rfl
    _ <-> x.value = y.value := Decimal.sameValue_iff

/-- A decimal constant that an implicit call rounds to eight digits. -/
def Node.rounded (value : Decimal) : Node :=
  .call 1 BuiltinType.numeric.toOid
    [.ofDatum BuiltinType.numeric.toOid (-1) Oid.invalid (-1) (.numeric value) false, .ofInt4 8]
    Oid.invalid Oid.invalid .implicitCast

/-- The number one, written with the given number of places. -/
def Decimal.one (places : Fin 29) : Decimal where
  negative := false
  coefficient := Nat.pow 10 places
  scale := places
  coefficient_lt := by
    have hpower := Nat.pow_le_pow_right (show 10 > 0 by decide) (Nat.le_of_lt_succ places.isLt)
    exact Nat.lt_of_le_of_lt hpower (by decide)
  scale_le := Nat.le_of_lt_succ places.isLt

/-- Places that cannot be seen in any attribute of the call around them. -/
theorem same_congruence_rounded :
    Node.rounded (.one 1) ≠ .rounded (.one 3) ∧
      (Node.rounded (.one 1)).same (.rounded (.one 3)) = true ∧
      (Node.rounded (.one 1)).Indistinguishable (.rounded (.one 2)) ∧
      (Node.rounded (.one 2)).lengthCoercion? = some 8 := by
  have hexact : (Node.rounded (.one 1)).Exact := by
    intro data hdata
    rw [Node.stored_eq] at hdata
    simp only [Node.rounded, Node.call, Node.ofDatum, Node.ofInt4, Node.slots, List.flatMap_cons,
      List.flatMap_nil, Node.stored_eq, List.mem_cons, List.mem_append, List.not_mem_nil,
      or_false, reduceCtorEq, false_or, Node.const.injEq] at hdata
    rcases hdata with rfl | rfl
    · trivial
    · trivial
  have hfirst : (Node.rounded (.one 1)).same (.rounded (.one 2)) = true := rfl
  have hsecond : (Node.rounded (.one 2)).same (.rounded (.one 3)) = true := rfl
  rcases same_congruence hexact (.rounded (.one 2)) (.rounded (.one 3)) with
    ⟨_, _, htrans, hblind, _⟩
  refine ⟨?_, htrans hfirst hsecond, hblind hfirst, rfl⟩
  intro hequal
  cases hequal

end QueryTree
