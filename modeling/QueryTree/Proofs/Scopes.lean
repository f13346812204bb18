import Mathlib.Data.List.Basic
import Mathlib.Data.List.Flatten
import QueryTree.Node.Rebuild
import QueryTree.Proofs.Replies

/-!
# What a scope leaves out

The parts of a tree that a scope leaves out cannot be noticed by a walk: two trees
that agree once these parts are emptied give the same walk, as far as a callback can
tell them apart by labels.  A scope that leaves out more shows part of what a wider
one shows, in the same order, and showing the entries of range tables adds these
entries and nothing else.
-/

namespace QueryTree

open Traversal Step
open scoped List

/-!
# Emptying what is left out
-/

/-- An entry kind without the nodes that a scope leaves out. -/
def RteKind.blanked (scope : Scope) : RteKind -> RteKind
  | .subquery inner securityBarrier =>
      .subquery (if scope.skipSubqueries then .list [] else inner) securityBarrier
  | .join joinType aliasVars => .join joinType (if scope.skipJoinAliases then [] else aliasVars)
  | kind => kind

theorem RteKind.contents_blanked (scope : Scope) (kind : RteKind) :
    (kind.blanked scope).contents scope = kind.contents scope := by
  cases kind with
  | subquery inner securityBarrier =>
      rw [blanked, contents, contents]
      split
      · rfl
      · rfl
  | join joinType aliasVars =>
      rw [blanked, contents, contents]
      split
      · rfl
      · rfl
  | _ => rfl

def RangeTblEntry.blanked (scope : Scope) (entry : RangeTblEntry) : RangeTblEntry :=
  { entry with kind := entry.kind.blanked scope }

theorem RangeTblEntry.contents_blanked (scope : Scope) (entry : RangeTblEntry) :
    (entry.blanked scope).contents scope = entry.contents scope := by
  rw [contents, contents, blanked, RteKind.contents_blanked]

/-- The tree without the parts that a walk in the scope leaves out: range tables, `WITH`
lists, subqueries and join columns, wherever the walk comes past them.  Everything else
is as it was. -/
def Node.masked (scope : Scope) (node : Node) : Node :=
  match node with
  | .query q =>
      let clauses := q.clauses.attach.map fun ⟨clause, _⟩ => clause.masked scope
      let rtable := q.rtable.attach.map fun ⟨member, _⟩ => member.masked scope
      let cteList := q.cteList.attach.map fun ⟨cte, _⟩ => cte.masked scope
      .query {
        q.withClauses clauses with
        rtable := if scope.skipRangeTable then [] else rtable
        cteList := if scope.skipCtes then [] else cteList }
  | .rangeTblEntry entry =>
      let contents := (entry.contents scope).attach.map fun ⟨node, _⟩ => node.masked scope
      .rangeTblEntry ((entry.blanked scope).withContents scope contents)
  | node => node.rebuild (node.children.attach.map fun ⟨child, _⟩ => child.masked scope)
termination_by sizeOf node
decreasing_by
  · exact sizeOf_lt_of_mem_slots (Query.mem_slots_of_mem_clauses ‹_›)
  · exact sizeOf_lt_of_mem_slots (Query.mem_slots_of_mem_rtable ‹_›)
  · exact sizeOf_lt_of_mem_slots (Query.mem_slots_of_mem_cteList ‹_›)
  · exact sizeOf_lt_of_mem_slots (RangeTblEntry.mem_slots_of_mem_contents ‹_›)
  · exact sizeOf_lt_of_mem_children ‹_›

namespace Node

variable (scope : Scope)

theorem masked_query (q : Query) :
    (Node.query q).masked scope =
      .query {
        q.withClauses (q.clauses.map (masked scope)) with
        rtable := if scope.skipRangeTable then [] else q.rtable.map (masked scope)
        cteList := if scope.skipCtes then [] else q.cteList.map (masked scope) } := by
  rw [masked]
  simp only [List.map_subtype, List.unattach_attach]

theorem masked_rangeTblEntry (entry : RangeTblEntry) :
    (Node.rangeTblEntry entry).masked scope =
      .rangeTblEntry
        ((entry.blanked scope).withContents scope ((entry.contents scope).map (masked scope))) := by
  rw [masked]
  simp only [List.map_subtype, List.unattach_attach]

theorem masked_of_plain {node : Node} (hplain : node.Plain) :
    node.masked scope = node.rebuild (node.children.map (masked scope)) := by
  cases node with
  | query q => exact absurd rfl hplain.left
  | rangeTblEntry entry => exact absurd rfl hplain.right
  | _ =>
      rw [masked]
      · simp only [List.map_subtype, List.unattach_attach]
      all_goals simp

/-- A label tells nothing of what is left out. -/
theorem caption_masked (node : Node) : (node.masked scope).caption = node.caption := by
  induction node using Node.byParts with
  | query q =>
      rw [masked_query]
      rfl
  | entry entry =>
      rw [masked_rangeTblEntry]
      rfl
  | plain node hplain => rw [masked_of_plain scope hplain, caption_rebuild]

theorem tag_masked (node : Node) : (node.masked scope).tag = node.tag :=
  congrArg Prod.fst (caption_masked scope node)

theorem plain_masked {node : Node} (hplain : node.Plain) : (node.masked scope).Plain := by
  rw [Plain, tag_masked]
  exact hplain

theorem children_masked {node : Node} (hplain : node.Plain) :
    (node.masked scope).children = node.children.map (masked scope) := by
  rw [masked_of_plain scope hplain]
  exact children_rebuild (List.length_map _)

theorem contents_masked (entry : RangeTblEntry) :
    ((entry.blanked scope).withContents scope
        ((entry.contents scope).map (masked scope))).contents scope =
      (entry.contents scope).map (masked scope) := by
  apply RangeTblEntry.contents_withContents
  rw [RangeTblEntry.contents_blanked, List.length_map]

end Node

/-!
# Walks that cannot tell
-/

variable {σ ε α β : Type}

theorem visitAll_map (visit : β -> Traversal σ ε Control) (f : α -> β) (xs : List α) :
    visitAll visit (xs.map f) = visitAll (fun x => visit (f x)) xs := by
  induction xs with
  | nil => rfl
  | cons x rest ih =>
      rw [List.map_cons, visitAll, visitAll, ih]

variable [OfTreeError ε] {scope : Scope}

/-- A recursion that starts the same way at two inputs, however many levels it has, is the
same computation. -/
theorem recurse_congr {step : (α -> Traversal σ ε β) -> α -> Traversal σ ε β} {input other : α}
    (hbounded : forall levels : Nat,
      recurse.bounded step levels input = recurse.bounded step levels other) :
    recurse step input = recurse step other := by
  rw [recurse, recurse]
  congr 1
  funext nesting
  exact hbounded (nesting.remaining + 1)

/-- In particular if its step does not tell the two inputs apart. -/
theorem recurse_congr_step {step : (α -> Traversal σ ε β) -> α -> Traversal σ ε β}
    {input other : α}
    (hstep : forall visit : α -> Traversal σ ε β, step visit input = step visit other) :
    recurse step input = recurse step other := by
  apply recurse_congr
  intro levels
  cases levels with
  | zero => rfl
  | succ levels => exact hstep _

section

variable {visit : Visitor σ ε}
  (hvisit : forall node : Node, visit (node.masked scope) = visit node)

include hvisit

omit [OfTreeError ε] in
theorem visitAll_masked (nodes : List Node) :
    visitAll visit (nodes.map (Node.masked scope)) = visitAll visit nodes := by
  rw [visitAll_map]
  congr 1
  funext node
  exact hvisit node

theorem walkEntry_masked (node : Node) :
    walkEntry visit scope (node.masked scope) = walkEntry visit scope node := by
  by_cases hentry : node.tag = .rangeTblEntry
  · cases node with
    | rangeTblEntry entry =>
        have hself := hvisit (.rangeTblEntry entry)
        rw [Node.masked_rangeTblEntry] at hself ⊢
        rw [walkEntry_rangeTblEntry, walkEntry_rangeTblEntry, Node.contents_masked,
          visitAll_masked hvisit, hself]
    | _ => cases hentry
  · have htag := Node.tag_masked scope node
    have hexpect : (expectEntry .walkRangeTable (node.masked scope) : Traversal σ ε _) =
        expectEntry .walkRangeTable node := by
      rw [expectEntry_of_tag_ne hentry, expectEntry_of_tag_ne (by rwa [htag]), htag]
    rw [walkEntry, walkEntry, hexpect, hvisit]

theorem walkRangeTable_masked (rtable : List Node) :
    walkRangeTable visit scope (rtable.map (Node.masked scope)) =
      walkRangeTable visit scope rtable := by
  rw [walkRangeTable, walkRangeTable, visitAll_map]
  congr 1
  funext member
  exact walkEntry_masked hvisit member

theorem walkBelow_masked (node : Node) :
    walkBelow visit scope (node.masked scope) = walkBelow visit scope node := by
  induction node using Node.byParts with
  | query q =>
      rw [Node.masked_query]
      show walkQuery visit scope _ = walkQuery visit scope q
      rw [walkQuery, walkQuery, Query.clauses_replaced (List.length_map _),
        visitAll_masked hvisit]
      congr 3
      · split
        · rfl
        · exact walkRangeTable_masked hvisit q.rtable
      · split
        · rfl
        · exact visitAll_masked hvisit q.cteList
  | entry entry =>
      rw [Node.masked_rangeTblEntry]
      rfl
  | plain node hplain =>
      rw [walkBelow_of_plain (Node.plain_masked scope hplain), walkBelow_of_plain hplain,
        Node.children_masked scope hplain, visitAll_masked hvisit]

end

/-- A walk cannot tell a tree from what is left of it once all is emptied that the scope
leaves out, unless its callback can. -/
theorem walkTree_masked {callback : Visitor σ ε}
    (hcallback : forall node : Node, callback (node.masked scope) = callback node)
    (node : Node) :
    walkTree callback scope (node.masked scope) = walkTree callback scope node := by
  apply recurse_congr
  intro levels
  induction levels generalizing node with
  | zero => rfl
  | succ levels ih =>
      rw [recurse.bounded, recurse.bounded, hcallback, walkBelow_masked ih]

/-- Two trees that agree outside what the scope leaves out give the same walk to every
callback that knows nodes by their labels: it ends in the same way, within whatever limit,
having shown the same labels at the same depths. -/
theorem walkTree_eq_of_masked_eq (reply : Reply (Node.Tag × Option String) σ ε Control)
    (scope : Scope) {tree other : Node} (hagree : tree.masked scope = other.masked scope)
    (nesting : Nesting) (state : σ) :
    runFrom (walkTree (fun node => reply.run node.caption) scope tree) nesting state =
        runFrom (walkTree (fun node => reply.run node.caption) scope other) nesting state ∧
      runFrom (walkTree (fun node => reply.logged.run node.caption) scope tree) nesting
          (state, []) =
        runFrom (walkTree (fun node => reply.logged.run node.caption) scope other) nesting
          (state, []) := by
  have hblind : forall {τ : Type} (reply : Reply (Node.Tag × Option String) τ ε Control),
      walkTree (fun node => reply.run node.caption) scope tree =
        walkTree (fun node => reply.run node.caption) scope other := by
    intro τ reply
    have hcallback : forall node : Node,
        reply.run (node.masked scope).caption = reply.run node.caption := by
      intro node
      rw [Node.caption_masked]
    rw [← walkTree_masked hcallback tree, hagree, walkTree_masked hcallback other]
  rw [hblind reply, hblind reply.logged]
  exact ⟨rfl, rfl⟩

/-- Whatever stands in the range table of a query is left out with it, even something that
a walk through the range table refuses. -/
theorem walkTree_eq_of_masked_eq_nestedSelect :
    runFrom (walkTree (fun node => (Reply.noted fun _ => .proceed : Reply _ _ TreeError _).run
        node.caption) { skipRangeTable := true } Node.nestedSelect) (.start 1) [] =
      runFrom (walkTree (fun node => (Reply.noted fun _ => .proceed : Reply _ _ TreeError _).run
        node.caption) { skipRangeTable := true }
        (.query { Query.bare with rtable := [.list []] })) (.start 1) [] ∧
    (runFrom (walkTree (Reply.chart : Reply _ _ TreeError _).run .everything
        (.query { Query.bare with rtable := [.list []] })) (.start 2) []).1 =
      .error (.unrecognizedNode .list .walkRangeTable) := by
  have hagree : Node.nestedSelect.masked { skipRangeTable := true } =
      (Node.query { Query.bare with rtable := [.list []] }).masked { skipRangeTable := true } := by
    rw [Node.nestedSelect, Node.masked_query, Node.masked_query]
    rfl
  have hwalk := walkTree_eq_of_masked_eq (Reply.noted fun _ => .proceed : Reply _ _ TreeError _)
    { skipRangeTable := true } hagree (.start 1) []
  exact ⟨hwalk.left, rfl⟩

/-!
# Narrower and wider scopes
-/

/-- The first scope leaves out at least what the second one leaves out, and shows entries
only where the second one shows them. -/
structure Scope.Within (narrow wide : Scope) : Prop where
  subqueries : wide.skipSubqueries = true -> narrow.skipSubqueries = true
  ctes : wide.skipCtes = true -> narrow.skipCtes = true
  joinAliases : wide.skipJoinAliases = true -> narrow.skipJoinAliases = true
  rangeTable : wide.skipRangeTable = true -> narrow.skipRangeTable = true
  entries : narrow.showEntries = true -> wide.showEntries = true

section

variable {narrow wide : Scope}

/-- A part that the narrower scope covers is covered by the wider one as well. -/
theorem sublist_of_skip {small large : Bool} (hskip : large = true -> small = true)
    {part other : List α} (hpart : part <+ other) :
    (if small then [] else part) <+ (if large then [] else other) := by
  cases large with
  | true =>
      rw [hskip rfl]
      exact List.Sublist.refl _
  | false =>
      split
      · exact List.nil_sublist _
      · exact hpart

theorem RteKind.contents_sublist (hwithin : narrow.Within wide) (kind : RteKind) :
    kind.contents narrow <+ kind.contents wide := by
  cases kind with
  | subquery inner securityBarrier =>
      exact sublist_of_skip hwithin.subqueries (List.Sublist.refl _)
  | join joinType aliasVars => exact sublist_of_skip hwithin.joinAliases (List.Sublist.refl _)
  | _ => exact List.Sublist.refl _

theorem Step.toEach_sublist {nodes others : List Node} (hnodes : nodes <+ others) (depth : Nat) :
    toEach nodes depth <+ toEach others depth :=
  hnodes.map _

theorem Node.entryPlan_sublist (hwithin : narrow.Within wide) (depth : Nat) (node : Node) :
    node.entryPlan narrow depth <+ node.entryPlan wide depth := by
  cases node with
  | rangeTblEntry entry =>
      have hcontents : entry.contents narrow <+ entry.contents wide :=
        (RteKind.contents_sublist hwithin entry.kind).append_right entry.securityQuals
      rw [entryPlan, entryPlan]
      apply List.Sublist.cons_cons
      apply List.Sublist.append
      · cases hnarrow : narrow.showEntries with
        | true => rw [hwithin.entries hnarrow]
        | false => exact List.nil_sublist _
      · exact toEach_sublist hcontents (depth + 1)
  | _ => exact List.Sublist.refl _

theorem Query.plan_sublist (hwithin : narrow.Within wide) (depth : Nat) (q : Query) :
    q.plan narrow depth <+ q.plan wide depth := by
  rw [plan, plan]
  apply List.Sublist.cons_cons
  apply List.Sublist.append_left
  apply List.Sublist.append
  · apply sublist_of_skip hwithin.rangeTable
    apply List.Sublist.flatMap_right
    intro member _hmember
    exact Node.entryPlan_sublist hwithin (depth + 1) member
  · exact sublist_of_skip hwithin.ctes (List.Sublist.refl _)

theorem Node.plan_sublist (hwithin : narrow.Within wide) (depth : Nat) (node : Node) :
    node.plan narrow depth <+ node.plan wide depth := by
  induction node using Node.byParts with
  | query q => exact Query.plan_sublist hwithin depth q
  | entry entry => exact List.Sublist.refl _
  | plain node hplain =>
      rw [plan_of_plain hplain, plan_of_plain hplain]

/-- Every step of a walk in the narrower scope is one of the wider scope, in the same
order. -/
theorem Node.itinerary_sublist (hwithin : narrow.Within wide) (node : Node) (depth : Nat) :
    node.itinerary narrow depth <+ node.itinerary wide depth := by
  induction node using Node.inductionOnPlan narrow generalizing depth with
  | step node ih =>
      rw [itinerary_eq, itinerary_eq]
      apply List.Sublist.cons_cons
      have hunfold : (node.plan narrow depth).flatMap (Step.unfold narrow) <+
          (node.plan narrow depth).flatMap (Step.unfold wide) := by
        apply List.Sublist.flatMap_right
        intro step hstep
        cases step with
        | enter deeper => exact List.Sublist.refl _
        | visit child deeper => exact ih child depth deeper hstep deeper
        | refuse error => exact List.Sublist.refl _
      exact hunfold.trans ((plan_sublist hwithin depth node).flatMap (Step.unfold wide))

end

/-!
# Showing entries
-/

/-- What is left of a trace without the range-table entries themselves. -/
def besidesEntries (visits : List (Node × Nat)) : List (Node × Nat) :=
  visits.filter fun visit => visit.1.tag ≠ .rangeTblEntry

theorem besidesEntries_append {first second : List (Node × Nat)} {rest others : List (Node × Nat)}
    (hfirst : besidesEntries first = besidesEntries second)
    (hrest : besidesEntries rest = besidesEntries others) :
    besidesEntries (first ++ rest) = besidesEntries (second ++ others) := by
  rw [besidesEntries, List.filter_append, besidesEntries, List.filter_append]
  exact congrArg₂ (· ++ ·) hfirst hrest

theorem besidesEntries_cons (visit : Node × Nat) {rest others : List (Node × Nat)}
    (hrest : besidesEntries rest = besidesEntries others) :
    besidesEntries (visit :: rest) = besidesEntries (visit :: others) := by
  have hvisit : besidesEntries [visit] = besidesEntries [visit] := rfl
  exact besidesEntries_append hvisit hrest

theorem besidesEntries_flatMap {first second : α -> List (Node × Nat)} {xs : List α}
    (heach : forall x : α, x ∈ xs -> besidesEntries (first x) = besidesEntries (second x)) :
    besidesEntries (xs.flatMap first) = besidesEntries (xs.flatMap second) := by
  rw [besidesEntries, besidesEntries, List.filter_flatMap, List.filter_flatMap]
  exact List.flatMap_congr heach

theorem besidesEntries_unless {skip : Bool} {part other : List (Node × Nat)}
    (hpart : skip = false -> besidesEntries part = besidesEntries other) :
    besidesEntries (if skip then [] else part) = besidesEntries (if skip then [] else other) := by
  cases skip with
  | true => rfl
  | false => exact hpart rfl

section

variable (scope : Scope) (showEntries : Bool)

theorem RangeTblEntry.contents_showEntries (entry : RangeTblEntry) :
    entry.contents { scope with showEntries } = entry.contents scope := by
  rw [contents, contents]
  cases entry.kind <;> rfl

theorem besidesEntries_entryTrace (entry : RangeTblEntry) (depth : Nat) :
    besidesEntries (entryTrace (fun scope node depth => node.trace scope depth) scope depth
        (.rangeTblEntry entry)) =
      besidesEntries ((entry.contents scope).flatMap fun node => node.trace scope depth) := by
  rw [entryTrace]
  split
  · -- the entry is filtered out again
    rfl
  · rfl

theorem besidesEntries_rangeTable {rtable : List Node} {depth : Nat}
    (hcontents : forall (entry : RangeTblEntry) (node : Node),
      .rangeTblEntry entry ∈ rtable -> node ∈ entry.contents scope ->
        besidesEntries (node.trace { scope with showEntries } depth) =
          besidesEntries (node.trace scope depth)) :
    besidesEntries (rtable.flatMap (entryTrace (fun scope node depth => node.trace scope depth)
        { scope with showEntries } depth)) =
      besidesEntries (rtable.flatMap (entryTrace (fun scope node depth => node.trace scope depth)
        scope depth)) := by
  apply besidesEntries_flatMap
  intro member hmember
  cases member with
  | rangeTblEntry entry =>
      rw [besidesEntries_entryTrace, besidesEntries_entryTrace,
        RangeTblEntry.contents_showEntries]
      apply besidesEntries_flatMap
      intro node hnode
      exact hcontents entry node hmember hnode
  | _ => rfl

/-- Whether entries are shown makes no difference to anything else that is. -/
theorem besidesEntries_trace (node : Node) (depth : Nat) :
    besidesEntries (node.trace { scope with showEntries } depth) =
      besidesEntries (node.trace scope depth) := by
  induction node using Node.inductionOnPlan scope generalizing depth with
  | step node ih =>
      induction node using Node.byParts with
      | query q =>
          rw [Node.trace_query, Node.trace_query]
          apply besidesEntries_cons
          apply besidesEntries_append
          · apply besidesEntries_flatMap
            intro clause hclause
            exact ih clause 0 1 (Query.visit_mem_plan.mpr (Or.inl ⟨hclause, rfl⟩)) (depth + 1)
          apply besidesEntries_append
          · apply besidesEntries_unless
            intro hskip
            apply besidesEntries_rangeTable
            intro entry node hentry hnode
            have hplan : .visit node 2 ∈ (Node.rangeTblEntry entry).entryPlan scope 1 :=
              Node.visit_mem_entryPlan.mpr ⟨entry, rfl, rfl, Or.inr hnode⟩
            exact ih node 0 2
              (Query.visit_mem_plan.mpr (Or.inr (Or.inl ⟨hskip, _, hentry, hplan⟩))) (depth + 2)
          · apply besidesEntries_unless
            intro hskip
            apply besidesEntries_flatMap
            intro cte hcte
            exact ih cte 0 1
              (Query.visit_mem_plan.mpr (Or.inr (Or.inr ⟨hskip, hcte, rfl⟩))) (depth + 1)
      | entry entry => rw [Node.inPreorder_trace.entry, Node.inPreorder_trace.entry]
      | plain node hplain =>
          rw [Node.trace_of_plain hplain, Node.trace_of_plain hplain]
          apply besidesEntries_cons
          apply besidesEntries_flatMap
          intro child hchild
          exact ih child 0 1 ((Node.visit_mem_plan_of_plain hplain).mpr ⟨hchild, rfl⟩)
            (depth + 1)

end

/-- Where a walk in a wider scope succeeds, one in a narrower scope does, and shows part of
the same nodes at the same depths in the same order.  If the scopes differ in showing
entries only, the nodes besides entries are the same. -/
theorem walkTree_sublist_of_within {narrow wide : Scope} (hwithin : narrow.Within wide) {tree : Node}
    {nesting after : Nesting} {control : Control} {shown : List (Node × Nat)}
    (hrun : runFrom (walkTree (Reply.chart : Reply _ _ ε _).run wide tree) nesting [] =
      (.ok control, after, shown)) :
    exists part : List (Node × Nat),
      runFrom (walkTree (Reply.chart : Reply _ _ ε _).run narrow tree) nesting [] =
        (.ok .proceed, nesting, part) ∧
      part <+ shown ∧
      (narrow = { wide with showEntries := narrow.showEntries } ->
        besidesEntries part = besidesEntries shown) := by
  rcases runFrom_walkTree_chart.mp hrun with ⟨hpasses, _hcontrol, _hafter, rfl⟩
  have hsteps := Node.itinerary_sublist hwithin tree nesting.depth
  refine ⟨tree.trace narrow nesting.depth, ?_, hsteps.filterMap _, ?_⟩
  · apply runFrom_walkTree_chart.mpr
    refine ⟨?_, rfl, rfl, rfl⟩
    intro step hstep
    exact hpasses step (hsteps.subset hstep)
  · intro hsame
    rw [hsame]
    exact besidesEntries_trace wide narrow.showEntries tree nesting.depth

/-- The entry of `nestedSelect` is shown on top of the query and its subquery. -/
theorem walkTree_sublist_of_within_nestedSelect :
    exists part shown : List (Node × Nat),
      runFrom (walkTree (Reply.chart : Reply _ _ TreeError _).run { showEntries := true }
          Node.nestedSelect) (.start 3) [] = (.ok .proceed, .start 3, shown) ∧
      runFrom (walkTree (Reply.chart : Reply _ _ TreeError _).run .everything
          Node.nestedSelect) (.start 3) [] = (.ok .proceed, .start 3, part) ∧
      part <+ shown ∧ besidesEntries part = besidesEntries shown ∧
      shown.map (fun visit => (visit.1.tag, visit.2)) =
        [(.query, 0), (.rangeTblEntry, 2), (.query, 2)] := by
  have hwithin : Scope.everything.Within { showEntries := true } := by
    constructor <;> decide
  have hrun : runFrom (walkTree (Reply.chart : Reply _ _ TreeError _).run { showEntries := true }
      Node.nestedSelect) (.start 3) [] = (.ok .proceed, .start 3, _) :=
    rfl
  rcases walkTree_sublist_of_within hwithin hrun with ⟨part, hpart, hsublist, hsame⟩
  exact ⟨part, _, hrun, hpart, hsublist, hsame rfl, rfl⟩

end QueryTree
