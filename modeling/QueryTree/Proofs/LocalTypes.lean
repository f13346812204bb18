import Mathlib.Data.List.Forall2
import QueryTree.Attribute.Collation
import QueryTree.Node.Build
import QueryTree.Proofs.Lockstep
import QueryTree.Proofs.StartingDeeper

/-!
# Types and collations kept node by node

A transformation whose callback keeps the type and the collation of every expression
that it replaces keeps those of the whole tree.  Most expressions store both.  The
others hand on what they find at a node below them, in the last resort at the first
output column of a sub-select, and a transformation keeps the way there.
-/

namespace QueryTree

open Traversal

variable {α : Type}

/-!
# Rules that hand on
-/

namespace Lookup

/-- What the first lookup answers is what the second one answers, unless that runs out of
levels. -/
def Preserved (limit : Nat) (before after : Lookup α) : Prop :=
  forall x : α, before.answer (.start limit) = .ok x ->
    after.answer (.start limit) = .ok x ∨ after.answer (.start limit) = cutOff limit

/-- The same wherever the two lookups start. -/
def PreservedAtEachDepth (limit : Nat) (before after : Lookup α) : Prop :=
  forall (depth : Nat) (x : α), depth <= limit -> before.answer { depth, limit } = .ok x ->
    after.answer { depth, limit } = .ok x ∨ after.answer { depth, limit } = cutOff limit

/-- The answer does not depend on the nesting. -/
def Steady (lookup : Lookup α) : Prop :=
  forall nesting other : Nesting, lookup.answer nesting = lookup.answer other

theorem steady_pure (x : α) : Steady (pure x) := by
  intro nesting other
  rfl

theorem steady_raise (error : TreeError) : Steady (raise error : Lookup α) := by
  intro nesting other
  rfl

theorem answer_bind_of_steady {lookup : Lookup α} {finish : α -> Lookup α}
    (hfinish : forall x : α, (finish x).Steady) (nesting : Nesting) :
    (lookup >>= finish).answer nesting =
      (lookup.answer nesting).bind fun x => (finish x).answer nesting := by
  rw [answer, answer, runFrom_bind]
  rcases runFrom lookup nesting () with ⟨outcome, after, state⟩
  cases outcome with
  | error error => rfl
  | ok x => exact hfinish x after nesting

/-- The lookup that a rule for one node makes, if a level is taken for each node. -/
def byRule (rule : (Node -> Lookup α) -> Node -> Lookup α) (node : Node) : Lookup α :=
  recurse (fun visit node => guarded (rule visit node)) node

end Lookup

open Lookup

/-- Two nodes whose answers have the same source: what a rule says of them does not depend
on the nodes below, or it is made from what it says of two nodes below that are kept, or it
is a failure to begin with. -/
inductive SameSource (rule : (Node -> Lookup α) -> Node -> Lookup α) (kept : Node -> Node -> Prop)
    (node other : Node) : Prop where
  | own (answer : Lookup α)
      (hnode : forall visit : Node -> Lookup α, rule visit node = answer)
      (hother : forall visit : Node -> Lookup α, rule visit other = answer)
  | below (child replaced : Node) (finish : α -> Lookup α) (hkept : kept child replaced)
      (hsteady : forall x : α, (finish x).Steady)
      (hnode : forall visit : Node -> Lookup α, rule visit node = visit child >>= finish)
      (hother : forall visit : Node -> Lookup α, rule visit other = visit replaced >>= finish)
  | failure (error : TreeError)
      (hnode : forall visit : Node -> Lookup α, rule visit node = raise error)

section

variable {rule : (Node -> Lookup α) -> Node -> Lookup α} {depth limit : Nat}

/-- From the limit on there is no level to take. -/
theorem answer_byRule_of_limit_le (hdepth : limit <= depth) (node : Node) :
    (byRule rule node).answer { depth, limit } =
      .error (.stackDepthExceeded (depth + 1) limit) := by
  rw [Lookup.answer, byRule, runFrom_recurse]
  show (runFrom (guarded _) _ _).1 = _
  rw [runFrom_guarded, Nesting.enter?, if_neg (Nat.not_le_of_lt (Nat.lt_succ_of_le hdepth))]
  rfl

/-- Before the limit the rule is asked one level deeper. -/
theorem answer_byRule (hdepth : depth < limit) (node : Node) :
    (byRule rule node).answer { depth, limit } =
      (rule (recurse.bounded (fun visit node => guarded (rule visit node)) (limit - depth))
        node).answer { depth := depth + 1, limit } := by
  rw [Lookup.answer, byRule, runFrom_recurse]
  show (runFrom (guarded _) _ _).1 = _
  rw [runFrom_guarded, Nesting.enter?, if_pos (Nat.succ_le_of_lt hdepth)]
  rfl

/-- There the rule asks itself of the nodes below. -/
theorem answer_bounded (hdepth : depth < limit) (node : Node) :
    Lookup.answer
        (recurse.bounded (fun visit node => guarded (rule visit node)) (limit - depth) node)
        { depth := depth + 1, limit } =
      (byRule rule node).answer { depth := depth + 1, limit } :=
  congrArg Prod.fst (runFrom_bounded _ hdepth node ())

theorem answer_byRule_of_own {node : Node} {answer : Lookup α} (hdepth : depth < limit)
    (hnode : forall visit : Node -> Lookup α, rule visit node = answer) :
    (byRule rule node).answer { depth, limit } = answer.answer { depth := depth + 1, limit } := by
  rw [answer_byRule hdepth, hnode]

theorem answer_byRule_of_below {node child : Node} {finish : α -> Lookup α} (hdepth : depth < limit)
    (hsteady : forall x : α, (finish x).Steady)
    (hnode : forall visit : Node -> Lookup α, rule visit node = visit child >>= finish) :
    (byRule rule node).answer { depth, limit } =
      ((byRule rule child).answer { depth := depth + 1, limit }).bind fun x =>
        (finish x).answer { depth := depth + 1, limit } := by
  rw [answer_byRule hdepth, hnode, answer_bind_of_steady hsteady, answer_bounded hdepth]

namespace SameSource

/-- An answer from the same source is preserved if those below are. -/
theorem preserved {kept : Node -> Node -> Prop} {node other : Node}
    (hsource : SameSource rule kept node other)
    (hkept : forall child replaced : Node, kept child replaced ->
      PreservedAtEachDepth limit (byRule rule child) (byRule rule replaced)) :
    PreservedAtEachDepth limit (byRule rule node) (byRule rule other) := by
  intro depth x hle hanswer
  rcases Nat.lt_or_eq_of_le hle with hdepth | rfl
  · cases hsource with
    | own answer hnode hother =>
        rw [answer_byRule_of_own hdepth hnode] at hanswer
        rw [answer_byRule_of_own hdepth hother]
        exact Or.inl hanswer
    | failure error hnode =>
        rw [answer_byRule_of_own hdepth hnode] at hanswer
        cases hanswer
    | below child replaced finish hchild hsteady hnode hother =>
        rw [answer_byRule_of_below hdepth hsteady hnode] at hanswer
        rw [answer_byRule_of_below hdepth hsteady hother]
        cases hfound : (byRule rule child).answer { depth := depth + 1, limit } with
        | error error =>
            rw [hfound] at hanswer
            cases hanswer
        | ok found =>
            rw [hfound] at hanswer
            rcases hkept child replaced hchild (depth + 1) found hdepth hfound with hsame | hcut
            · rw [hsame]
              exact Or.inl hanswer
            · rw [hcut]
              exact Or.inr rfl
  · rw [answer_byRule_of_limit_le Nat.le.refl] at hanswer
    cases hanswer

end SameSource

end

/-!
# Where types and collations come from
-/

namespace Node

/-- The expression of an output column. -/
def columnExpr? : Node -> Option Node
  | .targetEntry _ expr => some expr
  | _ => none

/-- The expression of the first output column of a query. -/
def firstColumn? : Node -> Option Node
  | .query q => q.targetList.head?.bind columnExpr?
  | _ => none

theorem subLinkTarget_of_firstColumn {subselect expr : Node}
    (hcolumn : subselect.firstColumn? = some expr) : subLinkTarget subselect = pure expr := by
  cases subselect with
  | query q =>
      rcases q with ⟨_, _, _, _, _ | ⟨first, rest⟩⟩
      · cases hcolumn
      · cases first with
        | targetEntry data target =>
            cases hcolumn
            rfl
        | _ => cases hcolumn
  | _ => cases hcolumn

/-- A sub-select without a first output column is refused. -/
theorem subLinkTarget_of_none {subselect : Node} (hcolumn : subselect.firstColumn? = none) :
    exists error : TreeError, subLinkTarget subselect = raise error := by
  unfold subLinkTarget
  split
  · split
    · cases hcolumn
    · exact ⟨_, rfl⟩
  · exact ⟨_, rfl⟩

end Node

/-- Two nodes that are kept together with what sub-select lookups find in them. -/
structure Carries (kept : Node -> Node -> Prop) (node other : Node) : Prop where
  self : kept node other
  column : forall expr : Node, node.columnExpr? = some expr ->
    exists replaced : Node, other.columnExpr? = some replaced ∧ kept expr replaced
  firstColumn : forall expr : Node, node.firstColumn? = some expr ->
    exists replaced : Node, other.firstColumn? = some replaced ∧ kept expr replaced

section

variable {kept : Node -> Node -> Prop}

theorem sameSource_subLink {rule : (Node -> Lookup α) -> Node -> Lookup α}
    {node other subselect replaced : Node} {finish : α -> Lookup α}
    (hsubselect : Carries kept subselect replaced) (hsteady : forall x : α, (finish x).Steady)
    (hnode : forall visit : Node -> Lookup α,
      rule visit node = subselect.subLinkTarget >>= fun target => visit target >>= finish)
    (hother : forall visit : Node -> Lookup α,
      rule visit other = replaced.subLinkTarget >>= fun target => visit target >>= finish) :
    SameSource rule kept node other := by
  cases hcolumn : subselect.firstColumn? with
  | none =>
      rcases Node.subLinkTarget_of_none hcolumn with ⟨error, htarget⟩
      apply SameSource.failure error
      intro visit
      rw [hnode, htarget]
      rfl
  | some target =>
      rcases hsubselect.firstColumn target hcolumn with ⟨newTarget, hnew, hkept⟩
      apply SameSource.below target newTarget finish hkept hsteady
      · intro visit
        rw [hnode, Node.subLinkTarget_of_firstColumn hcolumn, pure_bind]
      · intro visit
        rw [hother, Node.subLinkTarget_of_firstColumn hnew, pure_bind]

theorem isEmpty_many (old supply : List Node) (hlength : old.length <= supply.length) :
    (Node.Refill.many old supply).1.isEmpty = old.isEmpty := by
  cases old with
  | nil => rfl
  | cons node rest =>
      cases supply with
      | nil => cases hlength
      | cons new supply => rfl

theorem rebuild_subLink {related : Node -> Node -> Prop} (data : SubLink)
    {testExpr : Option Node} {subselect : Node} {supply : List Node}
    (hchildren : List.Forall₂ related (Node.subLink data testExpr subselect).children supply) :
    exists (newTest : Option Node) (replaced : Node),
      (Node.subLink data testExpr subselect).rebuild supply =
        .subLink data newTest replaced ∧ related subselect replaced := by
  cases testExpr with
  | none =>
      rcases hchildren with _ | ⟨hsubselect, _ | _⟩
      exact ⟨none, _, rfl, hsubselect⟩
  | some test =>
      rcases hchildren with _ | ⟨_, _ | ⟨hsubselect, _ | _⟩⟩
      exact ⟨some _, _, rfl, hsubselect⟩

/-- Whether there are lower bounds and an assignment is kept with the slots. -/
theorem typeWith_rebuild_arrayRef (catalog : Catalog) (typeOf : Node -> Lookup Oid)
    (data : ArrayRef) {upperIndex lowerIndex supply : List Node} {expr : Node}
    {assignExpr : Option Node}
    (hlength : supply.length =
      (Node.arrayRef data upperIndex lowerIndex expr assignExpr).children.length) :
    ((Node.arrayRef data upperIndex lowerIndex expr assignExpr).rebuild supply).typeWith catalog
        typeOf =
      if !lowerIndex.isEmpty || assignExpr.isSome then pure data.arrayType
      else pure data.elementType := by
  simp only [Node.children, List.length_append] at hlength
  have hlower := isEmpty_many lowerIndex (supply.drop upperIndex.length) (by simp; omega)
  show (if !(Node.Refill.many lowerIndex (supply.drop upperIndex.length)).1.isEmpty ||
      (Node.Refill.opt assignExpr _).1.isSome then _ else _) = _
  rw [hlower, Node.Refill.isSome_opt]

/-- An expression keeps the source of its type when it gets new children. -/
theorem sameSource_typeWith (catalog : Catalog) {node : Node} {supply : List Node}
    (hchildren : List.Forall₂ (Carries kept) node.children supply) :
    SameSource (Node.typeWith catalog) kept node (node.rebuild supply) := by
  cases node with
  | namedArgExpr | collateExpr | inferenceElem =>
      rcases hchildren with _ | ⟨hchild, _ | _⟩
      apply SameSource.below _ _ pure hchild.self steady_pure
      · intro visit
        exact (bind_pure _).symm
      · intro visit
        exact (bind_pure _).symm
  | subLink data testExpr subselect =>
      rcases rebuild_subLink data hchildren with ⟨newTest, replaced, hrebuild, hreplaced⟩
      rw [hrebuild]
      rcases data with ⟨linkType, linkId, operName, location⟩
      cases linkType with
      | expr =>
          apply sameSource_subLink hreplaced steady_pure
          · intro visit
            exact bind_congr fun target => (bind_pure _).symm
          · intro visit
            exact bind_congr fun target => (bind_pure _).symm
      | array =>
          have hsteady (element : Oid) :
              Steady ((catalog.promotedArrayType element).elim
                (raise (.missingArrayType element)) pure) := by
            cases catalog.promotedArrayType element with
            | none => exact steady_raise _
            | some array => exact steady_pure array
          have hrule (visit : Node -> Lookup Oid) (test : Option Node) (select : Node) :
              Node.typeWith catalog visit
                  (.subLink ⟨.array, linkId, operName, location⟩ test select) =
                select.subLinkTarget >>= fun target => visit target >>= fun element =>
                  (catalog.promotedArrayType element).elim (raise (.missingArrayType element))
                    pure := by
            refine bind_congr fun target => bind_congr fun element => ?_
            cases catalog.promotedArrayType element with
            | none => rfl
            | some array => rfl
          exact sameSource_subLink hreplaced hsteady (fun visit => hrule visit testExpr subselect)
            fun visit => hrule visit newTest replaced
      | _ => exact SameSource.own (pure _) (fun _ => rfl) fun _ => rfl
  | arrayRef data upperIndex lowerIndex expr assignExpr =>
      apply SameSource.own
        (if !lowerIndex.isEmpty || assignExpr.isSome then pure data.arrayType
          else pure data.elementType) fun _ => rfl
      intro visit
      exact typeWith_rebuild_arrayRef catalog visit data hchildren.length_eq.symm
  | _ => exact .own _ (fun _ => rfl) fun _ => rfl

theorem sameSource_collationWith {node : Node} {supply : List Node}
    (hchildren : List.Forall₂ (Carries kept) node.children supply) :
    SameSource Node.collationWith kept node (node.rebuild supply) := by
  cases node with
  | namedArgExpr | inferenceElem =>
      rcases hchildren with _ | ⟨hchild, _ | _⟩
      apply SameSource.below _ _ pure hchild.self steady_pure
      · intro visit
        exact (bind_pure _).symm
      · intro visit
        exact (bind_pure _).symm
  | subLink data testExpr subselect =>
      rcases rebuild_subLink data hchildren with ⟨newTest, replaced, hrebuild, hreplaced⟩
      rw [hrebuild]
      rcases data with ⟨linkType, linkId, operName, location⟩
      cases linkType with
      | expr | array =>
          apply sameSource_subLink hreplaced steady_pure
          · intro visit
            exact bind_congr fun target => (bind_pure _).symm
          · intro visit
            exact bind_congr fun target => (bind_pure _).symm
      | _ => exact SameSource.own (pure _) (fun _ => rfl) fun _ => rfl
  | _ => exact .own _ (fun _ => rfl) fun _ => rfl

end

/-!
# Lookups that start anywhere
-/

/-- It is enough to compare two lookups that start with nothing under way. -/
theorem preservedAtEachDepth {before after : Lookup α} {limit : Nat}
    (hbefore : forall levels : Nat, Rises levels limit α 0 before before)
    (hafter : forall levels : Nat, Rises levels limit α 0 after after)
    (hpreserved : Preserved limit before after) : PreservedAtEachDepth limit before after := by
  intro depth x hdepth hanswer
  rcases answer_deeper hbefore (Nat.zero_le depth) hdepth with hcut | hsame
  · rw [hcut] at hanswer
    cases hanswer
  · rw [hsame] at hanswer
    rcases answer_deeper hafter (Nat.zero_le depth) hdepth with hcut | hsame
    · exact Or.inr hcut
    · rw [hsame]
      exact hpreserved x hanswer

namespace Node

theorem preservedAtEachDepth_exprType {catalog : Catalog} {limit : Nat} {node other : Node}
    (hpreserved : Preserved limit (node.exprType catalog) (other.exprType catalog)) :
    PreservedAtEachDepth limit (node.exprType catalog) (other.exprType catalog) := by
  refine preservedAtEachDepth ?_ ?_ hpreserved
  · intro levels
    exact (congruence_rises levels limit).exprType catalog node 0
  · intro levels
    exact (congruence_rises levels limit).exprType catalog other 0

theorem preservedAtEachDepth_exprCollation {limit : Nat} {node other : Node}
    (hpreserved : Preserved limit node.exprCollation other.exprCollation) :
    PreservedAtEachDepth limit node.exprCollation other.exprCollation := by
  refine preservedAtEachDepth ?_ ?_ hpreserved
  · intro levels
    exact (congruence_rises levels limit).exprCollation node 0
  · intro levels
    exact (congruence_rises levels limit).exprCollation other 0

end Node

/-!
# Transformations
-/

variable {σ ε β : Type}

/-- Every answer of the computation, wherever it is run, is as stated. -/
def Yields (computation : Traversal σ ε α) (post : α -> Prop) : Prop :=
  forall (nesting : Nesting) (state : σ) (answer : α) (after : Nesting × σ),
    runFrom computation nesting state = (.ok answer, after) -> post answer

theorem yields_pure {answer : α} {post : α -> Prop} (hpost : post answer) :
    Yields (pure answer : Traversal σ ε α) post := by
  intro nesting state result after hrun
  cases hrun
  exact hpost

namespace Yields

theorem trivially (computation : Traversal σ ε α) : Yields computation fun _ => True := by
  intro nesting state answer after _hrun
  trivial

theorem bind {first : Traversal σ ε α} {next : α -> Traversal σ ε β} {between : α -> Prop}
    {post : β -> Prop} (hfirst : Yields first between)
    (hnext : forall x : α, between x -> Yields (next x) post) : Yields (first >>= next) post := by
  intro nesting state answer after hrun
  rw [runFrom_bind] at hrun
  rcases hresult : runFrom first nesting state with ⟨outcome, middle, during⟩
  rw [hresult] at hrun
  cases outcome with
  | error error => cases hrun
  | ok x => exact hnext x (hfirst nesting state x _ hresult) middle during answer after hrun

theorem guarded [OfTreeError ε] {step : Traversal σ ε α} {post : α -> Prop}
    (hstep : Yields step post) : Yields (guarded step) post := by
  intro nesting state answer after hrun
  rw [runFrom_guarded] at hrun
  cases henter : nesting.enter? with
  | error error =>
      rw [henter] at hrun
      cases hrun
  | ok deeper =>
      rw [henter] at hrun
      have hanswer : (runFrom step deeper state).1 = .ok answer := congrArg Prod.fst hrun
      exact hstep deeper state answer (runFrom step deeper state).2 (Prod.ext hanswer rfl)

theorem mapM {transform : α -> Traversal σ ε β} {post : α -> β -> Prop}
    (heach : forall x : α, Yields (transform x) (post x)) (xs : List α) :
    Yields (xs.mapM transform) (List.Forall₂ post xs) := by
  induction xs with
  | nil => exact yields_pure .nil
  | cons x rest ih =>
      rw [List.mapM_cons]
      refine Yields.bind (heach x) fun y hy => ?_
      refine Yields.bind ih fun ys hys => ?_
      exact yields_pure (List.Forall₂.cons hy hys)

theorem recurse [OfTreeError ε] {step : (α -> Traversal σ ε β) -> α -> Traversal σ ε β}
    {post : α -> β -> Prop}
    (hstep : forall visit : α -> Traversal σ ε β, (forall x : α, Yields (visit x) (post x)) ->
      forall x : α, Yields (step visit x) (post x))
    (input : α) : Yields (recurse step input) (post input) := by
  have hbounded : forall (levels : Nat) (x : α),
      Yields (recurse.bounded step levels x) (post x) := by
    intro levels
    induction levels with
    | zero =>
        intro x nesting state answer after hrun
        cases hrun
    | succ levels ih => exact hstep _ ih
  intro nesting state answer after hrun
  rw [runFrom_recurse] at hrun
  exact hbounded _ input nesting state answer after hrun

end Yields

/-- The type and the collation of a node are those of another one, wherever they are looked
up. -/
def SameLookups (catalog : Catalog) (limit : Nat) (node other : Node) : Prop :=
  PreservedAtEachDepth limit (node.exprType catalog) (other.exprType catalog) ∧
    PreservedAtEachDepth limit node.exprCollation other.exprCollation

theorem sameLookups_refl (catalog : Catalog) (limit : Nat) (node : Node) :
    SameLookups catalog limit node node := by
  constructor
  · intro depth x _ hanswer
    exact Or.inl hanswer
  · intro depth x _ hanswer
    exact Or.inl hanswer

section

variable {catalog : Catalog} {limit : Nat}

theorem sameLookups_rebuild {node : Node} {supply : List Node}
    (hchildren : List.Forall₂ (Carries (SameLookups catalog limit)) node.children supply) :
    SameLookups catalog limit node (node.rebuild supply) := by
  constructor
  · exact (sameSource_typeWith catalog hchildren).preserved fun _ _ hkept => hkept.left
  · exact (sameSource_collationWith hchildren).preserved fun _ _ hkept => hkept.right

theorem carries_rebuild {node : Node} (hplain : node.Plain) {supply : List Node}
    (hchildren : List.Forall₂ (Carries (SameLookups catalog limit)) node.children supply) :
    Carries (SameLookups catalog limit) node (node.rebuild supply) where
  self := sameLookups_rebuild hchildren
  column := by
    intro expr hexpr
    cases node with
    | targetEntry data target =>
        cases hexpr
        rcases hchildren with _ | ⟨hchild, _ | _⟩
        exact ⟨_, rfl, hchild.self⟩
    | _ => cases hexpr
  firstColumn := by
    intro expr hexpr
    cases node with
    | query q => exact absurd rfl hplain.left
    | _ => cases hexpr

/-- A query has neither type nor collation, but its first output column stays the first. -/
theorem carries_query {q : Query} {clauses : List Node}
    (hclauses : List.Forall₂ (Carries (SameLookups catalog limit)) q.clauses clauses)
    (rtable cteList : List Node) :
    Carries (SameLookups catalog limit) (.query q)
      (.query { q.withClauses clauses with rtable, cteList }) where
  self := by
    have htype : SameSource (Node.typeWith catalog) (fun _ _ => False) (.query q)
        (.query { q.withClauses clauses with rtable, cteList }) :=
      .failure _ fun _ => rfl
    have hcollation : SameSource Node.collationWith (fun _ _ => False) (.query q)
        (.query { q.withClauses clauses with rtable, cteList }) :=
      .failure _ fun _ => rfl
    exact ⟨htype.preserved nofun, hcollation.preserved nofun⟩
  column := nofun
  firstColumn := by
    intro expr hexpr
    rcases Option.bind_eq_some_iff.mp hexpr with ⟨first, hfirst, hcolumn⟩
    rcases hlist : q.targetList with _ | ⟨head, rest⟩
    · rw [hlist] at hfirst
      cases hfirst
    rw [hlist] at hfirst
    cases hfirst
    -- the first clause is the first column, and the first new clause goes into its place
    rcases hnew : clauses with _ | ⟨newFirst, more⟩
    · rw [Query.clauses, hlist, hnew] at hclauses
      cases hclauses
    rw [Query.clauses, hlist, hnew] at hclauses
    rcases hclauses with _ | ⟨hcarries, _⟩
    rcases hcarries.column expr hcolumn with ⟨replaced, hreplaced, hkept⟩
    refine ⟨replaced, ?_, hkept⟩
    show ((newFirst :: more).take q.targetList.length).head?.bind Node.columnExpr? = _
    rw [hlist]
    exact hreplaced

theorem yields_transformBelow [OfTreeError ε] {scope : Scope} {transform : Transformer σ ε}
    (htransform : forall node : Node,
      Yields (transform node) (Carries (SameLookups catalog limit) node))
    (node : Node) :
    Yields (transformBelow transform scope node) (Carries (SameLookups catalog limit) node) := by
  induction node using Node.byParts with
  | query q =>
      show Yields (transformQuery transform scope q >>= fun q => pure (Node.query q)) _
      rw [transformQuery_eq]
      refine Yields.bind (Yields.guarded ?_) fun answer hanswer => yields_pure hanswer
      refine Yields.bind (Yields.mapM htransform q.clauses) fun clauses hclauses => ?_
      refine Yields.bind (Yields.trivially _) fun rtable _ => ?_
      refine Yields.bind (Yields.trivially _) fun cteList _ => ?_
      exact yields_pure (carries_query hclauses rtable cteList)
  | entry entry =>
      apply yields_pure
      exact ⟨sameLookups_refl catalog limit _, nofun, nofun⟩
  | plain node hplain =>
      rw [transformBelow_of_plain hplain]
      apply Yields.guarded
      refine Yields.bind (Yields.mapM htransform node.children) fun children hchildren => ?_
      exact yields_pure (carries_rebuild hplain hchildren)

end

/-- A callback that replaces nothing but expressions, by expressions of the same type and
collation as far as the limit allows to look them up. -/
structure LocallyTyped (catalog : Catalog) (limit : Nat) (f : Node -> Option Node) : Prop where
  expr : forall node replacement : Node, f node = some replacement ->
    node.isExpr = true ∧ replacement.isExpr = true
  type : forall node replacement : Node, f node = some replacement ->
    Preserved limit (node.exprType catalog) (replacement.exprType catalog)
  collation : forall node replacement : Node, f node = some replacement ->
    Preserved limit node.exprCollation replacement.exprCollation

theorem LocallyTyped.carries {catalog : Catalog} {limit : Nat} {f : Node -> Option Node}
    (hlocal : LocallyTyped catalog limit f) {node replacement : Node}
    (hreplaced : f node = some replacement) :
    Carries (SameLookups catalog limit) node replacement where
  self := by
    constructor
    · exact Node.preservedAtEachDepth_exprType (hlocal.type node replacement hreplaced)
    · exact Node.preservedAtEachDepth_exprCollation (hlocal.collation node replacement hreplaced)
  column := by
    intro expr hcolumn
    have hexpr := (hlocal.expr node replacement hreplaced).left
    cases node with
    | targetEntry data target => cases hexpr
    | _ => cases hcolumn
  firstColumn := by
    intro expr hcolumn
    have hexpr := (hlocal.expr node replacement hreplaced).left
    cases node with
    | query q => cases hexpr
    | _ => cases hcolumn

/-- A transformation that keeps types and collations node by node keeps those of the tree,
whatever it goes through on the way, unless looking them up runs out of levels. -/
theorem transformTree_preserves_types [OfTreeError ε] (catalog : Catalog) (limit : Nat)
    (f : Node -> Option Node) (hlocal : LocallyTyped catalog limit f) (scope : Scope)
    {tree result : Node} {nesting : Nesting} {state : σ} {after : Nesting × σ}
    (hrun : runFrom (transformTree (fun node => pure (f node) : Node -> Traversal σ ε _) scope
      tree) nesting state = (.ok result, after)) :
    Preserved limit (tree.exprType catalog) (result.exprType catalog) ∧
      Preserved limit tree.exprCollation result.exprCollation := by
  have htree : Yields (transformTree (fun node => pure (f node) : Node -> Traversal σ ε _) scope
      tree) (Carries (SameLookups catalog limit) tree) := by
    apply Yields.recurse
    intro transform htransform node
    have hask : Yields (pure (f node) : Traversal σ ε _) fun answer => answer = f node :=
      yields_pure rfl
    refine Yields.bind hask fun answer hanswer => ?_
    cases answer with
    | some replacement => exact yields_pure (hlocal.carries hanswer.symm)
    | none => exact yields_transformBelow htransform node
  have hkept := (htree nesting state result after hrun).self
  exact ⟨fun x => hkept.left 0 x (Nat.zero_le limit), fun x => hkept.right 0 x (Nat.zero_le limit)⟩

/-- Put null in the place of every constant. -/
def constToNull : Node -> Option Node
  | .const data => some (.const { data with value := .null })
  | _ => none

theorem locallyTyped_constToNull (catalog : Catalog) (limit : Nat) :
    LocallyTyped catalog limit constToNull := by
  have hconst : forall node replacement : Node, constToNull node = some replacement ->
      exists data : Const,
        node = .const data ∧ replacement = .const { data with value := .null } := by
    intro node replacement hreplaced
    cases node with
    | const data =>
        cases hreplaced
        exact ⟨data, rfl, rfl⟩
    | _ => cases hreplaced
  constructor
  · intro node replacement hreplaced
    rcases hconst node replacement hreplaced with ⟨data, rfl, rfl⟩
    exact ⟨rfl, rfl⟩
  · intro node replacement hreplaced x hanswer
    rcases hconst node replacement hreplaced with ⟨data, rfl, rfl⟩
    exact Or.inl hanswer
  · intro node replacement hreplaced x hanswer
    rcases hconst node replacement hreplaced with ⟨data, rfl, rfl⟩
    exact Or.inl hanswer

/-- A named argument that is the array of a sub-select of one integer. -/
def arrayOfSelect (value : Datum) : Node :=
  .namedArgExpr { name := "items", argNumber := 0, location := none }
    (.subLink { linkType := .array, linkId := 0, operName := [], location := none } none
      (.query
        { Query.bare with
          targetList :=
            [.target (.ofDatum BuiltinType.int4.toOid (-1) Oid.invalid 4 value true) 1 none
              false] }))

/-- The type is found through the named argument and the sub-select, before and after. -/
theorem transformTree_preserves_types_arrayOfSelect :
    ((arrayOfSelect (.int4 1)).exprType .builtin).answer (.start 10) =
        .ok BuiltinType.int4Array.toOid ∧
      Preserved 10 ((arrayOfSelect (.int4 1)).exprType .builtin)
        ((arrayOfSelect .null).exprType .builtin) ∧
      Preserved 10 (arrayOfSelect (.int4 1)).exprCollation
        (arrayOfSelect .null).exprCollation := by
  have hrun : runFrom (transformTree (fun node => pure (constToNull node) : Node -> Lookup _)
      .everything (arrayOfSelect (.int4 1))) (.start 10) () =
      (.ok (arrayOfSelect .null), .start 10, ()) :=
    rfl
  refine ⟨rfl, ?_⟩
  exact transformTree_preserves_types .builtin 10 constToNull
    (locallyTyped_constToNull .builtin 10) .everything hrun

end QueryTree
