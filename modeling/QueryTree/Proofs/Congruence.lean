import QueryTree.Attribute.Location
import QueryTree.Attribute.Relabel
import QueryTree.Attribute.ReturnsSet
import QueryTree.Attribute.Typmod
import QueryTree.Proofs.Lockstep
import QueryTree.Traversal.Raw

/-!
# What building blocks respect

Every lookup, walk and transformation is put together from the same few building
blocks.  A relation between computations that the blocks respect therefore holds of
each of them, as soon as it holds of what their callbacks do.
-/

namespace QueryTree

open Traversal

/-- A relation between two computations at a depth that every building block respects: a
guarded step is related if what it runs is related one level deeper, and a recursion if
its step is, given calls of itself that are related at every greater depth. -/
structure Congruence {σ ε : Type} [OfTreeError ε]
    (related : forall α : Type, Nat -> Traversal σ ε α -> Traversal σ ε α -> Prop) : Prop where
  pure : forall {α : Type} (depth : Nat) (answer : α),
    related α depth (pure answer) (pure answer)
  raise : forall {α : Type} (depth : Nat) (error : TreeError),
    related α depth (raise error) (raise error)
  bind : forall {α β : Type} {depth : Nat} {first other : Traversal σ ε α}
    {next otherNext : α -> Traversal σ ε β},
    related α depth first other -> (forall x : α, related β depth (next x) (otherNext x)) ->
      related β depth (first >>= next) (other >>= otherNext)
  guarded : forall {α : Type} {depth : Nat} {step other : Traversal σ ε α},
    related α (depth + 1) step other -> related α depth (guarded step) (guarded other)
  recurse : forall {α β : Type} {step : (α -> Traversal σ ε β) -> α -> Traversal σ ε β},
    (forall (visit other : α -> Traversal σ ε β) (depth : Nat),
      (forall (x : α) (deeper : Nat), depth < deeper ->
        related β deeper (visit x) (other x)) ->
      forall x : α, related β depth (step visit x) (step other x)) ->
    forall (input : α) (depth : Nat),
      related β depth (recurse step input) (recurse step input)

namespace Congruence

variable {σ ε α β : Type} [OfTreeError ε]
  {related : forall α : Type, Nat -> Traversal σ ε α -> Traversal σ ε α -> Prop} {depth : Nat}

section

variable (hrelated : Congruence related)

include hrelated

theorem andThen {first rest other otherRest : Traversal σ ε Control}
    (hfirst : related Control depth first other)
    (hsecond : related Control depth rest otherRest) :
    related Control depth (andThen first rest) (andThen other otherRest) := by
  apply hrelated.bind hfirst
  intro control
  cases control with
  | stop => exact hrelated.pure depth _
  | proceed => exact hsecond

theorem visitAll {visit other : α -> Traversal σ ε Control}
    (heach : forall x : α, related Control depth (visit x) (other x)) (xs : List α) :
    related Control depth (visitAll visit xs) (visitAll other xs) := by
  induction xs with
  | nil => exact hrelated.pure depth _
  | cons x rest ih => exact hrelated.andThen (heach x) ih

theorem map {step other : Traversal σ ε α} (hstep : related α depth step other) (f : α -> β) :
    related β depth (step >>= fun x => Pure.pure (f x)) (other >>= fun x => Pure.pure (f x)) := by
  apply hrelated.bind hstep
  intro x
  exact hrelated.pure depth (f x)

theorem mapM {transform other : α -> Traversal σ ε β}
    (heach : forall x : α, related β depth (transform x) (other x)) (xs : List α) :
    related (List β) depth (xs.mapM transform) (xs.mapM other) := by
  induction xs with
  | nil => exact hrelated.pure depth []
  | cons x rest ih =>
      rw [List.mapM_cons, List.mapM_cons]
      apply hrelated.bind (heach x)
      intro y
      exact hrelated.map ih (y :: ·)

/-- A rule that looks below itself only after a level is taken. -/
theorem recurse_guarded {rule : (α -> Traversal σ ε β) -> α -> Traversal σ ε β}
    (hrule : forall (visit other : α -> Traversal σ ε β) (depth : Nat),
      (forall x : α, related β depth (visit x) (other x)) ->
      forall x : α, related β depth (rule visit x) (rule other x))
    (input : α) (depth : Nat) :
    related β depth
      (Traversal.recurse (fun visit x => Traversal.guarded (rule visit x)) input)
      (Traversal.recurse (fun visit x => Traversal.guarded (rule visit x)) input) := by
  apply hrelated.recurse
  intro visit other depth hvisit x
  apply hrelated.guarded
  apply hrule
  intro y
  exact hvisit y (depth + 1) (Nat.lt_succ_self depth)

end

/-!
# Lookups
-/

section

variable {related : forall α : Type, Nat -> Lookup α -> Lookup α -> Prop}
  (hrelated : Congruence related)

include hrelated

theorem subLinkTarget {lookup other : Node -> Lookup α}
    (hlookup : forall x : Node, related α depth (lookup x) (other x)) (subselect : Node) :
    related α depth (Node.subLinkTarget subselect >>= lookup)
      (Node.subLinkTarget subselect >>= other) := by
  have htarget : related Node depth (Node.subLinkTarget subselect)
      (Node.subLinkTarget subselect) := by
    unfold Node.subLinkTarget
    split
    · split
      · exact hrelated.pure depth _
      · exact hrelated.raise depth _
    · exact hrelated.raise depth _
  exact hrelated.bind htarget hlookup

theorem typeWith (catalog : Catalog) (typeOf other : Node -> Lookup Oid) (depth : Nat)
    (hbelow : forall x : Node, related Oid depth (typeOf x) (other x)) (node : Node) :
    related Oid depth (node.typeWith catalog typeOf) (node.typeWith catalog other) := by
  cases node with
  | subLink data testExpr subselect =>
      rw [Node.typeWith, Node.typeWith]
      split
      · exact hrelated.subLinkTarget hbelow subselect
      · apply hrelated.subLinkTarget
        intro target
        apply hrelated.bind (hbelow target)
        intro element
        split
        · exact hrelated.pure depth _
        · exact hrelated.raise depth _
      all_goals exact hrelated.pure depth _
  | arrayRef data upperIndex lowerIndex expr assignExpr =>
      rw [Node.typeWith, Node.typeWith]
      split
      · exact hrelated.pure depth _
      · exact hrelated.pure depth _
  | xmlExpr data namedArgs args =>
      rw [Node.typeWith, Node.typeWith]
      split
      all_goals exact hrelated.pure depth _
  | _ => simp only [Node.typeWith, hrelated.pure, hrelated.raise, hbelow]

theorem exprType (catalog : Catalog) (node : Node) (depth : Nat) :
    related Oid depth (node.exprType catalog) (node.exprType catalog) :=
  hrelated.recurse_guarded (hrelated.typeWith catalog) node depth

section

variable {typeOf : Node -> Lookup Oid} {typmodOf other : Node -> Lookup Int32}
  (htype : forall x : Node, related Oid depth (typeOf x) (typeOf x))
  (hbelow : forall x : Node, related Int32 depth (typmodOf x) (other x))

include htype hbelow

theorem allAgree (type : Oid) (typmod : Int32) (arms : List Node) :
    related Bool depth (Node.allAgree typeOf typmodOf type typmod arms)
      (Node.allAgree typeOf other type typmod arms) := by
  induction arms with
  | nil => exact hrelated.pure depth true
  | cons arm rest ih =>
      rw [Node.allAgree, Node.allAgree]
      apply hrelated.bind (htype arm)
      intro armType
      split
      · exact hrelated.pure depth false
      · apply hrelated.bind (hbelow arm)
        intro armTypmod
        split
        · exact hrelated.pure depth false
        · exact ih

theorem commonTypmod (type : Oid) (arms : List Node) :
    related Int32 depth (Node.commonTypmod typeOf typmodOf type arms)
      (Node.commonTypmod typeOf other type arms) := by
  cases arms with
  | nil => exact hrelated.pure depth _
  | cons first rest =>
      rw [Node.commonTypmod, Node.commonTypmod]
      apply hrelated.bind (htype first)
      intro firstType
      split
      · exact hrelated.pure depth _
      · apply hrelated.bind (hbelow first)
        intro typmod
        split
        · exact hrelated.pure depth _
        · apply hrelated.bind (hrelated.allAgree htype hbelow type typmod rest)
          intro agree
          split
          · exact hrelated.pure depth typmod
          · exact hrelated.pure depth _

theorem typmodWith (node : Node) :
    related Int32 depth (node.typmodWith typeOf typmodOf) (node.typmodWith typeOf other) := by
  cases node with
  | nullIfExpr data args =>
      cases args with
      | nil => exact hrelated.pure depth _
      | cons first rest => exact hbelow first
  | subLink data testExpr subselect =>
      rw [Node.typmodWith, Node.typmodWith]
      split
      · exact hrelated.subLinkTarget hbelow subselect
      · exact hrelated.subLinkTarget hbelow subselect
      · exact hrelated.pure depth _
  | caseExpr data arg whens otherwise =>
      cases otherwise with
      | none => exact hrelated.pure depth _
      | some otherwise =>
          exact hrelated.commonTypmod htype hbelow data.caseType
            (otherwise :: whens.map CaseWhen.result)
  | arrayExpr | coalesceExpr | minMaxExpr => exact hrelated.commonTypmod htype hbelow _ _
  | _ => simp only [Node.typmodWith, hrelated.pure, hrelated.raise, hbelow]

end

theorem exprTypmod (catalog : Catalog) (node : Node) (depth : Nat) :
    related Int32 depth (node.exprTypmod catalog) (node.exprTypmod catalog) := by
  apply hrelated.recurse_guarded
  intro typmodOf other depth hbelow node
  -- types are looked up by a recursion of their own, which goes on from this level
  exact hrelated.typmodWith (fun x => hrelated.exprType catalog x depth) hbelow node

theorem collationWith (collationOf other : Node -> Lookup Oid) (depth : Nat)
    (hbelow : forall x : Node, related Oid depth (collationOf x) (other x)) (node : Node) :
    related Oid depth (node.collationWith collationOf) (node.collationWith other) := by
  cases node with
  | subLink data testExpr subselect =>
      rw [Node.collationWith, Node.collationWith]
      split
      · exact hrelated.subLinkTarget hbelow subselect
      · exact hrelated.subLinkTarget hbelow subselect
      · exact hrelated.pure depth _
  | _ => simp only [Node.collationWith, hrelated.pure, hrelated.raise, hbelow]

theorem exprCollation (node : Node) (depth : Nat) :
    related Oid depth node.exprCollation node.exprCollation :=
  hrelated.recurse_guarded hrelated.collationWith node depth

theorem relabelToTypmod (catalog : Catalog) (node : Node) (typmod : Int32) (depth : Nat) :
    related Node depth (node.relabelToTypmod catalog typmod)
      (node.relabelToTypmod catalog typmod) := by
  apply hrelated.bind (hrelated.exprType catalog node depth)
  intro type
  exact hrelated.map (hrelated.exprCollation node depth) _

section

variable {locationOf other : α -> Lookup Location}
  (hbelow : forall x : α, related Location depth (locationOf x) (other x))

include hbelow

theorem firstKnown (xs : List α) :
    related Location depth (Location.firstKnown locationOf xs)
      (Location.firstKnown other xs) := by
  induction xs with
  | nil => exact hrelated.pure depth none
  | cons x rest ih =>
      apply hrelated.bind (hbelow x)
      intro location
      cases location with
      | some location => exact hrelated.pure depth (some location)
      | none => exact ih

theorem ofOption (x : Option α) :
    related Location depth (Location.ofOption locationOf x) (Location.ofOption other x) := by
  cases x with
  | none => exact hrelated.pure depth none
  | some x => exact hbelow x

end

theorem locationWith (locationOf other : Node -> Lookup Location) (depth : Nat)
    (hbelow : forall x : Node, related Location depth (locationOf x) (other x)) (node : Node) :
    related Location depth (node.locationWith locationOf) (node.locationWith other) := by
  cases node with
  | rowCompareExpr | list => exact hrelated.firstKnown hbelow _
  | subLink data testExpr subselect => exact hrelated.map (hrelated.ofOption hbelow testExpr) _
  | funcExpr | opExpr | distinctExpr | nullIfExpr | scalarArrayOpExpr | boolExpr | xmlExpr =>
      exact hrelated.map (hrelated.firstKnown hbelow _) _
  | namedArgExpr | relabelType | coerceViaInOut | arrayCoerceExpr | convertRowtypeExpr
  | nullTest | booleanTest | coerceToDomain => exact hrelated.map (hbelow _) _
  | _ => simp only [Node.locationWith, hrelated.pure, hbelow]

theorem exprLocation (node : Node) (depth : Nat) :
    related Location depth node.exprLocation node.exprLocation :=
  hrelated.recurse_guarded hrelated.locationWith node depth

theorem rawLocationWith (locationOf other : RawNode -> Lookup Location) (depth : Nat)
    (hbelow : forall x : RawNode, related Location depth (locationOf x) (other x))
    (node : RawNode) :
    related Location depth (node.locationWith locationOf) (node.locationWith other) := by
  cases node with
  | list items => exact hrelated.firstKnown hbelow items
  | collateClause data arg => exact hrelated.ofOption hbelow arg
  | subLink | aExpr => exact hrelated.map (hrelated.ofOption hbelow _) _
  | xmlExpr | funcCall => exact hrelated.map (hrelated.firstKnown hbelow _) _
  | nullTest | booleanTest | namedArgExpr => exact hrelated.map (hbelow _) _
  | typeCast location arg type =>
      apply hrelated.bind (hbelow arg)
      intro argLocation
      exact hrelated.map (hbelow type) _
  | _ => simp only [RawNode.locationWith, hrelated.pure, hbelow]

theorem rawExprLocation (node : RawNode) (depth : Nat) :
    related Location depth node.exprLocation node.exprLocation :=
  hrelated.recurse_guarded hrelated.rawLocationWith node depth

end

/-!
# Walks
-/

section

variable (hrelated : Congruence related)

include hrelated

theorem expectEntry (operation : TreeError.Operation) (node : Node) :
    related RangeTblEntry depth (expectEntry operation node) (expectEntry operation node) := by
  cases node with
  | rangeTblEntry entry => exact hrelated.pure depth entry
  | _ => exact hrelated.raise depth _

section

variable {visit other : Visitor σ ε}
  (hvisit : forall (node : Node) (deeper : Nat), depth < deeper ->
    related Control deeper (visit node) (other node))

include hvisit

theorem walkChildren (node : Node) :
    related Control depth (walkChildren visit node) (walkChildren other node) := by
  apply hrelated.guarded
  have hchildren := hrelated.visitAll
    (fun x => hvisit x (depth + 1) (Nat.lt_succ_self depth)) node.children
  cases node with
  | rangeTblEntry entry => exact hrelated.raise _ _
  | _ => exact hchildren

theorem walkEntry (scope : Scope) (node : Node) :
    related Control depth (walkEntry visit scope node) (walkEntry other scope node) := by
  have hbelow := fun x : Node => hvisit x (depth + 1) (Nat.lt_succ_self depth)
  apply hrelated.guarded
  apply hrelated.bind (hrelated.expectEntry .walkRangeTable node)
  intro entry
  apply hrelated.andThen
  · split
    · exact hbelow node
    · exact hrelated.pure _ _
  · exact hrelated.visitAll hbelow (entry.contents scope)

theorem walkRangeTable (scope : Scope) (rtable : List Node) :
    related Control depth (walkRangeTable visit scope rtable)
      (walkRangeTable other scope rtable) :=
  hrelated.visitAll (hrelated.walkEntry hvisit scope) rtable

theorem walkQuery (scope : Scope) (q : Query) :
    related Control depth (walkQuery visit scope q) (walkQuery other scope q) := by
  have hbelow := fun x : Node => hvisit x (depth + 1) (Nat.lt_succ_self depth)
  apply hrelated.guarded
  apply hrelated.andThen (hrelated.visitAll hbelow q.clauses)
  apply hrelated.andThen
  · split
    · exact hrelated.pure _ _
    · -- every entry takes a level of its own, so its contents are two levels down
      apply hrelated.walkRangeTable
      intro node deeper hdeeper
      exact hvisit node deeper (Nat.lt_of_succ_lt hdeeper)
  · split
    · exact hrelated.pure _ _
    · exact hrelated.visitAll hbelow q.cteList

theorem walkBelow (scope : Scope) (node : Node) :
    related Control depth (walkBelow visit scope node) (walkBelow other scope node) := by
  induction node using Node.byParts with
  | query q => exact hrelated.walkQuery hvisit scope q
  | entry entry => exact hrelated.pure depth _
  | plain node hplain =>
      rw [walkBelow_of_plain hplain, walkBelow_of_plain hplain]
      apply hrelated.guarded
      apply hrelated.visitAll
      intro child
      exact hvisit child (depth + 1) (Nat.lt_succ_self depth)

end

theorem walkQueryOrExpr {visit other : Visitor σ ε}
    (hvisit : forall (node : Node) (deeper : Nat), depth <= deeper ->
      related Control deeper (visit node) (other node))
    (scope : Scope) (node : Node) :
    related Control depth (walkQueryOrExpr visit scope node)
      (walkQueryOrExpr other scope node) := by
  cases node with
  | query q =>
      apply hrelated.walkQuery
      intro node deeper hdeeper
      exact hvisit node deeper (Nat.le_of_lt hdeeper)
  | _ => exact hvisit _ depth (Nat.le_refl depth)

theorem walkTree {callback : Visitor σ ε}
    (hcallback : forall (node : Node) (depth : Nat),
      related Control depth (callback node) (callback node))
    (scope : Scope) (node : Node) (depth : Nat) :
    related Control depth (walkTree callback scope node) (walkTree callback scope node) := by
  apply hrelated.recurse
  intro visit other depth hvisit node
  exact hrelated.andThen (hcallback node depth) (hrelated.walkBelow hvisit scope node)

theorem walkQueryTree {callback : Visitor σ ε}
    (hcallback : forall (node : Node) (depth : Nat),
      related Control depth (callback node) (callback node))
    (scope : Scope) (q : Query) (depth : Nat) :
    related Control depth (walkQueryTree callback scope q) (walkQueryTree callback scope q) := by
  apply hrelated.walkQuery
  intro node deeper _hdeeper
  exact hrelated.walkTree hcallback scope node deeper

theorem walkRawChildren {visit other : RawVisitor σ ε}
    (hvisit : forall (node : RawNode) (deeper : Nat), depth < deeper ->
      related Control deeper (visit node) (other node))
    (node : RawNode) :
    related Control depth (walkRawChildren visit node) (walkRawChildren other node) := by
  apply hrelated.guarded
  apply hrelated.visitAll
  intro child
  exact hvisit child (depth + 1) (Nat.lt_succ_self depth)

theorem walkRawTree {callback : RawVisitor σ ε}
    (hcallback : forall (node : RawNode) (depth : Nat),
      related Control depth (callback node) (callback node))
    (node : RawNode) (depth : Nat) :
    related Control depth (walkRawTree callback node) (walkRawTree callback node) := by
  apply hrelated.recurse
  intro visit other depth hvisit node
  exact hrelated.andThen (hcallback node depth) (hrelated.walkRawChildren hvisit node)

end

theorem returnsSet {related : forall α : Type, Nat -> Lookup α -> Lookup α -> Prop}
    (hrelated : Congruence related) (node : Node) (depth : Nat) :
    related Bool depth node.returnsSet node.returnsSet := by
  have hfind : related Control depth node.findSetReturning node.findSetReturning := by
    apply hrelated.recurse
    intro visit other depth hvisit node
    split
    · exact hrelated.pure depth _
    split
    · exact hrelated.pure depth _
    · exact hrelated.walkChildren hvisit node
  exact hrelated.map hfind fun control => decide (control = .stop)

/-!
# Transformations
-/

section

variable (hrelated : Congruence related)

include hrelated

section

variable {transform other : Transformer σ ε}
  (htransform : forall (node : Node) (deeper : Nat), depth < deeper ->
    related Node deeper (transform node) (other node))

include htransform

theorem transformChildren (node : Node) :
    related Node depth (transformChildren transform node) (transformChildren other node) := by
  apply hrelated.guarded
  have hchildren := hrelated.map (hrelated.mapM
    (fun x => htransform x (depth + 1) (Nat.lt_succ_self depth)) node.children) node.rebuild
  cases node with
  | rangeTblEntry entry => exact hrelated.raise _ _
  | _ => exact hchildren

theorem transformEntry (scope : Scope) (node : Node) :
    related Node depth (transformEntry transform scope node)
      (transformEntry other scope node) := by
  have hbelow := fun x : Node => htransform x (depth + 1) (Nat.lt_succ_self depth)
  rw [transformEntry_eq, transformEntry_eq]
  apply hrelated.guarded
  have hself : related Node (depth + 1)
      (if scope.showEntries then transform node else Pure.pure node)
      (if scope.showEntries then other node else Pure.pure node) := by
    split
    · exact hbelow node
    · exact hrelated.pure _ node
  apply hrelated.bind hself
  intro node
  apply hrelated.bind (hrelated.expectEntry .transformRangeTable node)
  intro entry
  exact hrelated.map (hrelated.mapM hbelow (entry.contents scope)) _

theorem transformRangeTable (scope : Scope) (rtable : List Node) :
    related (List Node) depth (transformRangeTable transform scope rtable)
      (transformRangeTable other scope rtable) :=
  hrelated.mapM (hrelated.transformEntry htransform scope) rtable

theorem transformQuery (scope : Scope) (q : Query) :
    related Query depth (transformQuery transform scope q) (transformQuery other scope q) := by
  have hbelow := fun x : Node => htransform x (depth + 1) (Nat.lt_succ_self depth)
  have hrtable : related (List Node) (depth + 1)
      (if scope.skipRangeTable then Pure.pure q.rtable
        else QueryTree.transformRangeTable transform scope q.rtable)
      (if scope.skipRangeTable then Pure.pure q.rtable
        else QueryTree.transformRangeTable other scope q.rtable) := by
    split
    · exact hrelated.pure _ q.rtable
    · apply hrelated.transformRangeTable
      intro node deeper hdeeper
      exact htransform node deeper (Nat.lt_of_succ_lt hdeeper)
  rw [transformQuery_eq, transformQuery_eq]
  apply hrelated.guarded
  apply hrelated.bind (hrelated.mapM hbelow q.clauses)
  intro clauses
  apply hrelated.bind hrtable
  intro rtable
  apply hrelated.map
  split
  · exact hrelated.pure _ q.cteList
  · exact hrelated.mapM hbelow q.cteList

theorem transformBelow (scope : Scope) (node : Node) :
    related Node depth (transformBelow transform scope node)
      (transformBelow other scope node) := by
  induction node using Node.byParts with
  | query q => exact hrelated.map (hrelated.transformQuery htransform scope q) Node.query
  | entry entry => exact hrelated.pure depth _
  | plain node hplain =>
      rw [transformBelow_of_plain hplain, transformBelow_of_plain hplain]
      apply hrelated.guarded
      apply hrelated.map
      apply hrelated.mapM
      intro child
      exact htransform child (depth + 1) (Nat.lt_succ_self depth)

end

theorem transformQueryOrExpr {transform other : Transformer σ ε}
    (htransform : forall (node : Node) (deeper : Nat), depth <= deeper ->
      related Node deeper (transform node) (other node))
    (scope : Scope) (node : Node) :
    related Node depth (transformQueryOrExpr transform scope node)
      (transformQueryOrExpr other scope node) := by
  cases node with
  | query q =>
      apply hrelated.map
      apply hrelated.transformQuery
      intro node deeper hdeeper
      exact htransform node deeper (Nat.le_of_lt hdeeper)
  | _ => exact htransform _ depth (Nat.le_refl depth)

theorem transformTree {callback : Node -> Traversal σ ε (Option Node)}
    (hcallback : forall (node : Node) (depth : Nat),
      related (Option Node) depth (callback node) (callback node))
    (scope : Scope) (node : Node) (depth : Nat) :
    related Node depth (transformTree callback scope node)
      (transformTree callback scope node) := by
  apply hrelated.recurse
  intro transform other depth htransform node
  apply hrelated.bind (hcallback node depth)
  intro answer
  cases answer with
  | some replacement => exact hrelated.pure depth replacement
  | none => exact hrelated.transformBelow htransform scope node

theorem transformQueryTree {callback : Node -> Traversal σ ε (Option Node)}
    (hcallback : forall (node : Node) (depth : Nat),
      related (Option Node) depth (callback node) (callback node))
    (scope : Scope) (q : Query) (depth : Nat) :
    related Query depth (transformQueryTree callback scope q)
      (transformQueryTree callback scope q) := by
  apply hrelated.transformQuery
  intro node deeper _hdeeper
  exact hrelated.transformTree hcallback scope node deeper

end

end Congruence

end QueryTree
