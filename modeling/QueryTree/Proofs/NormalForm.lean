import QueryTree.Command.Report
import QueryTree.Proofs.Outcomes
import QueryTree.Proofs.Replies

/-!
# The normal form of stripping

A tree is stripped if a walk over it meets no implicit coercion that has an argument.
Stripping implicit coercions always ends in such a tree, and leaves a tree alone that is
one already.  So stripping twice is stripping once.
-/

namespace QueryTree

open Traversal Step

namespace Node

/-!
# One node
-/

theorem implicitArg?_stripImplicit (node : Node) : node.stripImplicit.implicitArg? = none := by
  induction node using stripImplicit.induct with
  | case1 node arg harg _hsize ih =>
      rw [stripImplicit]
      split
      · rename_i other hother
        cases harg.symm.trans hother
        exact ih
      · rename_i hnone
        cases harg.symm.trans hnone
  | case2 node hnone =>
      rw [stripImplicit]
      split
      · rename_i other hother
        cases hnone.symm.trans hother
      · exact hnone

theorem stripImplicit_eq_self {node : Node} (hnone : node.implicitArg? = none) :
    node.stripImplicit = node := by
  rw [stripImplicit]
  split
  · rename_i arg harg
    cases hnone.symm.trans harg
  · rfl

/-- New children do not make an implicit coercion of what was none. -/
theorem implicitArg?_rebuild {node : Node} (hnone : node.implicitArg? = none)
    (supply : List Node) : (node.rebuild supply).implicitArg? = none := by
  cases node with
  | funcExpr data args =>
      show (if data.format = .implicitCast then (supply.take args.length).head? else none) = none
      rw [implicitArg?] at hnone
      split
      · rename_i hformat
        rw [if_pos hformat, List.head?_eq_none_iff] at hnone
        rw [hnone]
        rfl
      · rfl
  | relabelType data arg | coerceViaInOut data arg | arrayCoerceExpr data arg
  | convertRowtypeExpr data arg | coerceToDomain data arg =>
      have hformat : ¬ data.format = .implicitCast := by
        intro hformat
        simp [implicitArg?, hformat] at hnone
      exact if_neg hformat
  | _ => rfl

end Node

/-!
# Stripped trees
-/

/-- The step can be taken, and if it shows a node, that is no implicit coercion with an
argument. -/
def Step.Stripped (limit : Nat) : Step Node -> Prop
  | .enter depth => depth <= limit
  | .visit node _ => node.implicitArg? = none
  | .refuse _ => False

theorem Step.mem_shown {steps : List (Step Node)} {node : Node} {depth : Nat} :
    (node, depth) ∈ shown steps <-> .visit node depth ∈ steps := by
  rw [shown, List.mem_filterMap]
  constructor
  · rintro ⟨step, hstep, hshown⟩
    cases step with
    | visit other deeper =>
        cases hshown
        exact hstep
    | _ => cases hshown
  · intro hstep
    exact ⟨_, hstep, rfl⟩

namespace Node

/-- A walk over the tree that starts at `depth` can take all of its steps, and meets no
implicit coercion with an argument. -/
def Stripped (scope : Scope) (limit depth : Nat) (node : Node) : Prop :=
  forall step : Step Node, step ∈ node.itinerary scope depth -> step.Stripped limit

/-- A range-table entry of a query whose contents are at `depth`, with a stripped inside. -/
def StrippedMember (scope : Scope) (limit depth : Nat) (member : Node) : Prop :=
  exists entry : RangeTblEntry, member = .rangeTblEntry entry ∧ depth < limit ∧
    forall child : Node, child ∈ entry.contents scope -> child.Stripped scope limit (depth + 1)

variable {scope : Scope} {limit depth : Nat}

theorem stripped_toEach {nodes : List Node} :
    (forall step : Step Node, step ∈ (toEach nodes depth).flatMap (Step.unfold scope) ->
        step.Stripped limit) <->
      forall node : Node, node ∈ nodes -> node.Stripped scope limit depth := by
  rw [toEach_flatMap_unfold]
  constructor
  · intro hsteps node hnode step hstep
    exact hsteps step (List.mem_flatMap.mpr ⟨node, hnode, hstep⟩)
  · intro hnodes step hstep
    rcases List.mem_flatMap.mp hstep with ⟨node, hnode, hmem⟩
    exact hnodes node hnode step hmem

theorem stripped_rangeTblEntry (entry : RangeTblEntry) :
    (Node.rangeTblEntry entry).Stripped scope limit depth := by
  intro step hstep
  rw [itinerary_rangeTblEntry] at hstep
  rw [List.mem_singleton.mp hstep]
  rfl

theorem stripped_of_plain {node : Node} (hplain : node.Plain) :
    node.Stripped scope limit depth <->
      node.implicitArg? = none ∧ depth < limit ∧
        forall child : Node, child ∈ node.children -> child.Stripped scope limit (depth + 1) := by
  rw [Stripped, itinerary_eq, plan_of_plain hplain, enter_flatMap_unfold, List.forall_mem_cons,
    List.forall_mem_cons, stripped_toEach]
  exact Iff.rfl

theorem strippedMember_iff {member : Node} :
    (forall step : Step Node, step ∈ (member.entryPlan scope depth).flatMap (Step.unfold scope) ->
        step.Stripped limit) <->
      member.StrippedMember scope limit depth := by
  by_cases htag : member.tag = .rangeTblEntry
  · cases member with
    | rangeTblEntry entry =>
        have hshown : forall step : Step Node,
            step ∈ (if scope.showEntries then [.visit (.rangeTblEntry entry) (depth + 1)]
              else ([] : List (Step Node))).flatMap (Step.unfold scope) -> step.Stripped limit := by
          intro step hstep
          split at hstep
          · rw [List.flatMap_singleton] at hstep
            exact stripped_rangeTblEntry entry step hstep
          · cases hstep
        rw [entryPlan, enter_flatMap_unfold, List.forall_mem_cons, List.flatMap_append,
          List.forall_mem_append, stripped_toEach]
        constructor
        · rintro ⟨hlimit, _, hcontents⟩
          exact ⟨entry, rfl, hlimit, hcontents⟩
        · rintro ⟨other, hother, hlimit, hcontents⟩
          cases hother
          exact ⟨hlimit, hshown, hcontents⟩
    | _ => cases htag
  · constructor
    · intro hsteps
      have hrefuse : .refuse (.unrecognizedNode member.tag .walkRangeTable) ∈
          (member.entryPlan scope depth).flatMap (Step.unfold scope) := by
        cases member with
        | rangeTblEntry entry => exact absurd rfl htag
        | _ => exact List.mem_cons_of_mem _ List.mem_cons_self
      exact absurd (hsteps _ hrefuse) id
    · rintro ⟨entry, rfl, _⟩
      exact absurd rfl htag

theorem stripped_query {q : Query} :
    (Node.query q).Stripped scope limit depth <->
      depth < limit ∧
        (forall clause : Node, clause ∈ q.clauses -> clause.Stripped scope limit (depth + 1)) ∧
        (scope.skipRangeTable = false -> forall member : Node, member ∈ q.rtable ->
          member.StrippedMember scope limit (depth + 1)) ∧
        (scope.skipCtes = false -> forall cte : Node, cte ∈ q.cteList ->
          cte.Stripped scope limit (depth + 1)) := by
  rw [Stripped, itinerary_eq, plan, Query.plan, enter_flatMap_unfold, List.forall_mem_cons,
    List.forall_mem_cons, List.flatMap_append, List.forall_mem_append, List.flatMap_append,
    List.forall_mem_append, stripped_toEach]
  apply (and_iff_right (show Step.Stripped limit (.visit (.query q) depth) from rfl)).trans
  apply and_congr Iff.rfl
  apply and_congr Iff.rfl
  apply and_congr
  · cases scope.skipRangeTable with
    | true => simp
    | false =>
        simp only [Bool.false_eq_true, if_false, forall_const, List.flatMap_assoc,
          List.mem_flatMap]
        constructor
        · intro hsteps member hmember
          apply strippedMember_iff.mp
          intro step hstep
          exact hsteps step ⟨member, hmember, List.mem_flatMap.mp hstep⟩
        · rintro hmembers step ⟨member, hmember, hstep⟩
          exact strippedMember_iff.mpr (hmembers member hmember) step (List.mem_flatMap.mpr hstep)
  · cases scope.skipCtes with
    | true => simp
    | false =>
        simp only [Bool.false_eq_true, if_false, forall_const]
        exact stripped_toEach

end Node

/-!
# Stripping

In what follows `transform` is the recursion of the stripping.
-/

variable {scope : Scope} {limit depth : Nat} {transform : Transformer Unit TreeError}

section

variable
  (htransform : forall (child : Node) (deeper : Nat), depth < deeper -> deeper <= limit ->
    Ends limit deeper (transform child) (Node.Stripped scope limit deeper) fun _ => True)

include htransform

theorem ends_transformEntry_stripped (member : Node) :
    Ends limit depth (transformEntry transform scope member)
      (Node.StrippedMember scope limit depth) fun _ => True := by
  have hinside : depth < limit -> forall child : Node,
      Ends limit (depth + 1) (transform child) (Node.Stripped scope limit (depth + 1))
        fun _ => True := by
    intro hlimit child
    exact htransform child (depth + 1) (Nat.lt_succ_self depth) hlimit
  have hself : depth < limit ->
      Ends limit (depth + 1) (if scope.showEntries then transform member else pure member)
        (fun _ => True) fun _ => True := by
    intro hlimit
    split
    · exact (hinside hlimit member).mono fun _ _ => trivial
    · exact ends_pure trivial
  apply Ends.mono (ends_transformEntry (fun _ => trivial) hself (fun _ _ _ => trivial)
    fun hlimit _entry child _ _ => hinside hlimit child)
  rintro answer ⟨hlimit, entry, contents, _, hcontents, rfl⟩
  refine ⟨_, rfl, hlimit, ?_⟩
  rw [RangeTblEntry.contents_withContents hcontents.length_eq.symm]
  exact forall_mem_of_forall₂ hcontents

/-- What is below a node that is no implicit coercion ends up stripped, if every call of the
recursion does. -/
theorem ends_transformBelow_stripped {node : Node} (hnode : node.implicitArg? = none) :
    Ends limit depth (transformBelow transform scope node) (Node.Stripped scope limit depth)
      fun _ => True := by
  have hbelow : depth < limit -> forall child : Node,
      Ends limit (depth + 1) (transform child) (Node.Stripped scope limit (depth + 1))
        fun _ => True := by
    intro hlimit child
    exact htransform child (depth + 1) (Nat.lt_succ_self depth) hlimit
  induction node using Node.byParts with
  | query q =>
      have hmember : depth < limit -> forall member : Node,
          Ends limit (depth + 1) (transformEntry transform scope member)
            (Node.StrippedMember scope limit (depth + 1)) fun _ => True := by
        intro _hlimit
        apply ends_transformEntry_stripped
        intro child deeper hdeeper
        exact htransform child deeper (Nat.lt_of_succ_lt hdeeper)
      apply Ends.map (ends_transformQuery (fun _ => trivial)
        (fun hlimit clause _ => hbelow hlimit clause)
        (fun hlimit _ member _ => hmember hlimit member) fun hlimit _ cte _ => hbelow hlimit cte)
      rintro answer ⟨hlimit, hanswer⟩
      apply Node.stripped_query.mpr
      refine ⟨hlimit, forall_mem_of_forall₂ hanswer.clauses, ?_, ?_⟩
      · intro hskip
        exact forall_mem_of_forall₂ (hanswer.rtable hskip)
      · intro hskip
        exact forall_mem_of_forall₂ (hanswer.cteList hskip)
  | entry entry => exact ends_pure (Node.stripped_rangeTblEntry entry)
  | plain node hplain =>
      apply Ends.mono (ends_transformBelow_of_plain hplain (fun _ => trivial)
        fun hlimit child _ => hbelow hlimit child)
      rintro answer ⟨hlimit, children, hchildren, rfl⟩
      have hrebuilt : (node.rebuild children).Plain := by
        rw [Node.Plain, Node.tag_rebuild]
        exact hplain
      apply (Node.stripped_of_plain hrebuilt).mpr
      refine ⟨Node.implicitArg?_rebuild hnode children, hlimit, ?_⟩
      rw [Node.children_rebuild hchildren.length_eq.symm]
      exact forall_mem_of_forall₂ hchildren

end

/-- Whatever the stripping ends up with is stripped. -/
theorem ends_stripCoercions_stripped (node : Node) :
    Ends limit depth (stripCoercions scope node) (Node.Stripped scope limit depth)
      fun _ => True := by
  apply Ends.recurse (fun _ _ => True) (fun _ depth => Node.Stripped scope limit depth) _ trivial
  intro transform depth htransform node _
  apply ends_transformBelow_stripped _ (Node.implicitArg?_stripImplicit node)
  intro child deeper hdeeper hlimit
  exact htransform child deeper hdeeper hlimit trivial

section

variable
  (htransform : forall (child : Node) (deeper : Nat), depth < deeper -> deeper <= limit ->
    child.Stripped scope limit deeper ->
      Ends limit deeper (transform child) (child = ·) fun _ => False)

include htransform

theorem ends_transformEntry_kept {member : Node}
    (hmember : member.StrippedMember scope limit depth) :
    Ends limit depth (transformEntry transform scope member) (member = ·) fun _ => False := by
  rcases hmember with ⟨entry, rfl, hlimit, hcontents⟩
  have hinside : forall child : Node, child.Stripped scope limit (depth + 1) ->
      Ends limit (depth + 1) (transform child) (child = ·) fun _ => False := by
    intro child
    exact htransform child (depth + 1) (Nat.lt_succ_self depth) hlimit
  have hself :
      Ends limit (depth + 1)
        (if scope.showEntries then transform (.rangeTblEntry entry)
          else pure (.rangeTblEntry entry))
        (Node.rangeTblEntry entry = ·) fun _ => False := by
    split
    · exact hinside _ (Node.stripped_rangeTblEntry entry)
    · exact ends_pure rfl
  have hother : forall answer : Node, .rangeTblEntry entry = answer ->
      answer.tag ≠ .rangeTblEntry -> False := by
    rintro answer rfl htag
    exact htag rfl
  have hkept : forall (other : RangeTblEntry) (child : Node),
      Node.rangeTblEntry entry = .rangeTblEntry other -> child ∈ other.contents scope ->
        Ends limit (depth + 1) (transform child) (child = ·) fun _ => False := by
    intro other child hsame hchild
    cases hsame
    exact hinside child (hcontents child hchild)
  apply Ends.mono (ends_transformEntry (fun hcut => absurd hlimit (Nat.not_lt_of_le hcut))
    (fun _ => hself) hother fun _ => hkept)
  rintro answer ⟨_, other, contents, hsame, hcontents, rfl⟩
  cases hsame
  rw [List.forall₂_eq_eq_eq] at hcontents
  rw [← hcontents, RangeTblEntry.withContents_contents]

/-- A stripped tree stays as it is, if everything that a walk over it leads to does. -/
theorem ends_transformBelow_kept {node : Node} (hnode : node.Stripped scope limit depth) :
    Ends limit depth (transformBelow transform scope node) (node = ·) fun _ => False := by
  have hbelow : depth < limit -> forall child : Node, child.Stripped scope limit (depth + 1) ->
      Ends limit (depth + 1) (transform child) (child = ·) fun _ => False := by
    intro hlimit child
    exact htransform child (depth + 1) (Nat.lt_succ_self depth) hlimit
  induction node using Node.byParts with
  | query q =>
      rcases Node.stripped_query.mp hnode with ⟨hroom, hclauses, hrtable, hctes⟩
      have hmember : forall member : Node, member.StrippedMember scope limit (depth + 1) ->
          Ends limit (depth + 1) (transformEntry transform scope member) (member = ·)
            fun _ => False := by
        intro member
        apply ends_transformEntry_kept
        intro child deeper hdeeper
        exact htransform child deeper (Nat.lt_of_succ_lt hdeeper)
      apply Ends.map (ends_transformQuery (fun hcut => absurd hroom (Nat.not_lt_of_le hcut))
        (fun hlimit clause hclause => hbelow hlimit clause (hclauses clause hclause))
        (fun _ hskip member hin => hmember member (hrtable hskip member hin))
        fun hlimit hskip cte hcte => hbelow hlimit cte (hctes hskip cte hcte))
      rintro answer ⟨_, hanswer⟩
      rw [hanswer.eq_self]
  | entry entry => exact ends_pure rfl
  | plain node hplain =>
      rcases (Node.stripped_of_plain hplain).mp hnode with ⟨_, hroom, hchildren⟩
      apply Ends.mono (ends_transformBelow_of_plain hplain
        (fun hcut => absurd hroom (Nat.not_lt_of_le hcut))
        fun hlimit child hchild => hbelow hlimit child (hchildren child hchild))
      rintro answer ⟨_, children, hsame, rfl⟩
      rw [List.forall₂_eq_eq_eq] at hsame
      rw [← hsame, Node.rebuild_children]

end

/-- A stripped tree is left alone. -/
theorem ends_stripCoercions_kept {node : Node} (hnode : node.Stripped scope limit depth) :
    Ends limit depth (stripCoercions scope node) (node = ·) fun _ => False := by
  apply Ends.recurse (fun node depth => node.Stripped scope limit depth) (fun node _ => (node = ·))
    _ hnode
  intro transform depth htransform node hnode
  have hself : node.stripImplicit = node := by
    apply Node.stripImplicit_eq_self
    apply hnode (.visit node depth)
    rw [Node.itinerary_eq]
    exact List.mem_cons_self
  rw [hself]
  exact ends_transformBelow_kept htransform hnode

/-!
# Stripping as a command
-/

theorem ends_strip_stripped (tree : Node) :
    Ends limit depth (transformQueryOrExpr (stripCoercions scope) scope tree)
      (Node.Stripped scope limit depth) fun _ => True := by
  cases tree with
  | query q =>
      have hquery : (Node.query q).implicitArg? = none := rfl
      apply ends_transformBelow_stripped _ hquery
      intro child deeper _ _
      exact ends_stripCoercions_stripped child
  | _ => exact ends_stripCoercions_stripped _

theorem ends_strip_kept {tree : Node} (htree : tree.Stripped scope limit depth) :
    Ends limit depth (transformQueryOrExpr (stripCoercions scope) scope tree) (tree = ·)
      fun _ => False := by
  cases tree with
  | query q =>
      apply ends_transformBelow_kept _ htree
      intro child deeper _ _ hchild
      exact ends_stripCoercions_kept hchild
  | _ => exact ends_stripCoercions_kept htree

theorem stripTree_of_stripped {nesting : Nesting} {tree : Node}
    (htree : tree.Stripped scope nesting.limit nesting.depth) :
    stripTree scope nesting tree = .ok tree := by
  rw [stripTree, Lookup.answer]
  rcases ends_strip_kept htree () with ⟨answer, after, hrun, hsame⟩ | ⟨error, after, _, hnever⟩
  · rw [hrun, ← hsame]
  · cases hnever

theorem stripped_of_stripTree {nesting : Nesting} {tree answer : Node}
    (hstrip : stripTree scope nesting tree = .ok answer) :
    answer.Stripped scope nesting.limit nesting.depth := by
  rw [stripTree, Lookup.answer] at hstrip
  rcases ends_strip_stripped tree () with ⟨other, after, hrun, hother⟩ | ⟨error, after, hrun, _⟩
  · rw [hrun] at hstrip
    cases hstrip
    exact hother
  · rw [hrun] at hstrip
    cases hstrip

theorem Node.stripped_iff_passes {node : Node} :
    node.Stripped scope limit depth <->
      (forall step : Step Node, step ∈ node.itinerary scope depth -> step.Passes limit) ∧
        forall (shown : Node) (deeper : Nat), (shown, deeper) ∈ node.trace scope depth ->
          shown.implicitArg? = none := by
  constructor
  · intro hnode
    constructor
    · intro step hstep
      have hstripped := hnode step hstep
      cases step with
      | enter deeper => exact hstripped
      | visit shown deeper => trivial
      | refuse error => cases hstripped
    · intro shown deeper hshown
      exact hnode (.visit shown deeper) (mem_shown.mp hshown)
  · rintro ⟨hpasses, hshown⟩ step hstep
    cases step with
    | enter deeper => exact hpasses _ hstep
    | visit shown deeper => exact hshown shown deeper (mem_shown.mpr hstep)
    | refuse error => cases hpasses _ hstep

/-- Stripping ends in a normal form.  A walk over the result that always goes on succeeds
from where the stripping started, and every node that it shows is its own stripped form;
stripping the result once more gives it back; and a tree over which such a walk succeeds
without showing an implicit coercion that has an argument is its own result. -/
theorem stripTree_normal_form (scope : Scope) (nesting : Nesting) (tree stripped : Node)
    (hstrip : stripTree scope nesting tree = .ok stripped) :
    (exists log : List (Node × Nat),
      runFrom (walkTree (Reply.chart : Reply _ _ TreeError _).run scope stripped) nesting [] =
          (.ok .proceed, nesting, log) ∧
        forall (node : Node) (depth : Nat), (node, depth) ∈ log -> node.stripImplicit = node) ∧
      stripTree scope nesting stripped = .ok stripped ∧
      forall log : List (Node × Nat),
        runFrom (walkTree (Reply.chart : Reply _ _ TreeError _).run scope tree) nesting [] =
            (.ok .proceed, nesting, log) ->
          (forall (node : Node) (depth : Nat), (node, depth) ∈ log ->
            node.implicitArg? = none) ->
          stripped = tree := by
  have hstripped := stripped_of_stripTree hstrip
  rcases Node.stripped_iff_passes.mp hstripped with ⟨hpasses, hshown⟩
  refine ⟨⟨stripped.trace scope nesting.depth, ?_, ?_⟩, stripTree_of_stripped hstripped, ?_⟩
  · exact runFrom_walkTree_chart.mpr ⟨hpasses, rfl, rfl, rfl⟩
  · intro node depth hnode
    exact Node.stripImplicit_eq_self (hshown node depth hnode)
  · intro log hwalk hlog
    rcases runFrom_walkTree_chart.mp hwalk with ⟨htaken, _, _, rfl⟩
    have hkept := stripTree_of_stripped (Node.stripped_iff_passes.mpr ⟨htaken, hlog⟩)
    rw [hkept] at hstrip
    cases hstrip
    rfl

/-- A relabeling to integer that was not written. -/
def Node.implicitly (arg : Node) : Node :=
  arg.relabel BuiltinType.int4.toOid (-1) Oid.invalid .implicitCast

theorem Node.stripImplicit_implicitly (arg : Node) :
    arg.implicitly.stripImplicit = arg.stripImplicit := by
  rw [stripImplicit]
  rfl

/-- A cast that was written. -/
def Node.castCall (arg : Node) : Node :=
  .call 1 BuiltinType.int4.toOid [arg] Oid.invalid Oid.invalid .explicitCast

/-- One step of the stripping, over a recursion of its own. -/
def stripStep (scope : Scope) (transform : Transformer Unit TreeError) :
    Transformer Unit TreeError :=
  fun node => transformBelow transform scope node.stripImplicit

theorem runFrom_stripCoercions (scope : Scope) (node : Node) (nesting : Nesting) :
    runFrom (stripCoercions scope node) nesting () =
      runFrom (recurse.bounded (stripStep scope) (nesting.remaining + 1) node) nesting () :=
  runFrom_recurse (stripStep scope) node nesting ()

theorem runFrom_bounded_stripStep (scope : Scope) (levels : Nat) (node : Node)
    (nesting : Nesting) :
    runFrom (recurse.bounded (stripStep scope) (levels + 1) node) nesting () =
      runFrom (transformBelow (recurse.bounded (stripStep scope) levels) scope node.stripImplicit)
        nesting () :=
  rfl

/-- Two stacked coercions above a written cast, and one below it. -/
theorem stripTree_normal_form_castCall :
    stripTree {} (.start 2) (Node.ofInt4 1).implicitly.castCall.implicitly.implicitly =
        .ok (Node.ofInt4 1).castCall ∧
      stripTree {} (.start 2) (Node.ofInt4 1).castCall = .ok (Node.ofInt4 1).castCall := by
  have hconst : (Node.ofInt4 1).implicitly.stripImplicit = .ofInt4 1 := by
    rw [Node.stripImplicit_implicitly]
    exact Node.stripImplicit_eq_self rfl
  have hcast : (Node.ofInt4 1).implicitly.castCall.implicitly.implicitly.stripImplicit =
      (Node.ofInt4 1).implicitly.castCall := by
    rw [Node.stripImplicit_implicitly, Node.stripImplicit_implicitly]
    exact Node.stripImplicit_eq_self rfl
  have hbelow : runFrom (recurse.bounded (stripStep {}) 2 (Node.ofInt4 1).implicitly)
      { depth := 1, limit := 2 } () = (.ok (.ofInt4 1), { depth := 1, limit := 2 }, ()) := by
    rw [runFrom_bounded_stripStep, hconst]
    rfl
  have hinner : runFrom ([(Node.ofInt4 1).implicitly].mapM (recurse.bounded (stripStep {}) 2))
      { depth := 1, limit := 2 } () = (.ok [.ofInt4 1], { depth := 1, limit := 2 }, ()) := by
    rw [List.mapM_cons, runFrom_bind, hbelow]
    rfl
  have hplain : (Node.ofInt4 1).implicitly.castCall.Plain := ⟨nofun, nofun⟩
  have hrun : runFrom (stripCoercions {} (Node.ofInt4 1).implicitly.castCall.implicitly.implicitly)
      (.start 2) () = (.ok (Node.ofInt4 1).castCall, .start 2, ()) := by
    rw [runFrom_stripCoercions, runFrom_bounded_stripStep, hcast]
    exact (transformBelow_eq_ok hplain).mpr ⟨by decide, [.ofInt4 1], _, hinner, rfl, rfl⟩
  have hstrip :
      stripTree {} (.start 2) (Node.ofInt4 1).implicitly.castCall.implicitly.implicitly =
        .ok (Node.ofInt4 1).castCall :=
    congrArg Prod.fst hrun
  exact ⟨hstrip, (stripTree_normal_form {} (.start 2) _ _ hstrip).right.left⟩

end QueryTree
