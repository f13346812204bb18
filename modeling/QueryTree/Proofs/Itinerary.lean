import QueryTree.Proofs.Slots
import QueryTree.Traversal.Walk

/-!
# The itinerary of a walk

Where a walk over a tree goes, written down without any callback.  The plan of a
node is what a walk does right below it: it takes a level of nesting, goes to the
nodes there, and gives up at a node that may not stand where it does.  Following
the plan of every node that is met gives the itinerary of the whole walk, and the
nodes met along it, each with its depth, are its trace.
-/

namespace QueryTree

/-!
# Plans
-/

/-- One step of a walk: take a level of nesting, which leads to a depth; show a node at a
depth; give up because of the tree.  The nodes are those of any kind of tree. -/
inductive Step (ν : Type) where
  | enter (depth : Nat)
  | visit (node : ν) (depth : Nat)
  | refuse (error : TreeError)

namespace Step

variable {ν : Type}

def toEach (nodes : List ν) (depth : Nat) : List (Step ν) :=
  nodes.map fun node => .visit node depth

theorem visit_mem_toEach {node : ν} {nodes : List ν} {depth deeper : Nat} :
    visit node deeper ∈ toEach nodes depth <-> node ∈ nodes ∧ deeper = depth := by
  simp only [toEach, List.mem_map, visit.injEq]
  constructor
  · rintro ⟨other, hmem, rfl, rfl⟩
    exact ⟨hmem, rfl⟩
  · rintro ⟨hmem, rfl⟩
    exact ⟨node, hmem, rfl, rfl⟩

end Step

open Step

/-- What a walk does for one member of the range table of a query whose contents
are at `depth`. -/
def Node.entryPlan (scope : Scope) (depth : Nat) : Node -> List (Step Node)
  | .rangeTblEntry entry =>
      .enter (depth + 1) ::
        ((if scope.showEntries then [.visit (.rangeTblEntry entry) (depth + 1)] else []) ++
          toEach (entry.contents scope) (depth + 1))
  | node =>
      [.enter (depth + 1), .refuse (.unrecognizedNode node.tag .walkRangeTable)]

/-- What a walk does below a query at `depth`. -/
def Query.plan (scope : Scope) (depth : Nat) (q : Query) : List (Step Node) :=
  .enter (depth + 1) ::
    (toEach q.clauses (depth + 1) ++
      ((if scope.skipRangeTable then [] else q.rtable.flatMap (Node.entryPlan scope (depth + 1))) ++
        (if scope.skipCtes then [] else toEach q.cteList (depth + 1))))

/-- What a walk does right below a node at `depth`. -/
def Node.plan (scope : Scope) (depth : Nat) : Node -> List (Step Node)
  | .query q => q.plan scope depth
  | .rangeTblEntry _ => []
  | node => .enter (depth + 1) :: toEach node.children (depth + 1)

theorem Node.plan_of_plain {node : Node} (hplain : node.Plain) (scope : Scope) (depth : Nat) :
    node.plan scope depth = .enter (depth + 1) :: toEach node.children (depth + 1) := by
  cases node with
  | query q => exact absurd rfl hplain.left
  | rangeTblEntry entry => exact absurd rfl hplain.right
  | _ => rfl

section

open Traversal

variable {σ ε : Type} [OfTreeError ε] {visit : Visitor σ ε} {scope : Scope}

theorem walkEntry_rangeTblEntry (entry : RangeTblEntry) :
    walkEntry visit scope (.rangeTblEntry entry) =
      guarded
        (andThen (if scope.showEntries then visit (.rangeTblEntry entry) else pure .proceed)
          (visitAll visit (entry.contents scope))) :=
  rfl

theorem expectEntry_of_tag_ne {node : Node} (hentry : node.tag ≠ .rangeTblEntry)
    (operation : TreeError.Operation) :
    (expectEntry operation node : Traversal σ ε RangeTblEntry) =
      raise (.unrecognizedNode node.tag operation) := by
  cases node with
  | rangeTblEntry entry => exact absurd rfl hentry
  | _ => rfl

theorem walkBelow_of_plain {node : Node} (hplain : node.Plain) :
    walkBelow visit scope node = guarded (visitAll visit node.children) := by
  cases node with
  | query q => exact absurd rfl hplain.left
  | rangeTblEntry entry => exact absurd rfl hplain.right
  | _ => rfl

end

/-!
# Where a plan leads
-/

theorem Node.visit_mem_entryPlan {node child : Node} {scope : Scope} {depth deeper : Nat} :
    .visit child deeper ∈ node.entryPlan scope depth <->
      exists entry : RangeTblEntry, node = .rangeTblEntry entry ∧ deeper = depth + 1 ∧
        (scope.showEntries = true ∧ child = node ∨ child ∈ entry.contents scope) := by
  cases node with
  | rangeTblEntry entry =>
      simp only [entryPlan, List.mem_cons, List.mem_append, reduceCtorEq, false_or,
        visit_mem_toEach, rangeTblEntry.injEq, exists_eq_left']
      cases scope.showEntries with
      | true =>
          simp only [if_true, List.mem_singleton, visit.injEq]
          grind
      | false =>
          simp only [Bool.false_eq_true, if_false, List.not_mem_nil]
          grind
  | _ => simp [entryPlan]

theorem Query.visit_mem_plan {q : Query} {child : Node} {scope : Scope} {depth deeper : Nat} :
    .visit child deeper ∈ q.plan scope depth <->
      child ∈ q.clauses ∧ deeper = depth + 1 ∨
      scope.skipRangeTable = false ∧
        (exists member : Node, member ∈ q.rtable ∧
          .visit child deeper ∈ member.entryPlan scope (depth + 1)) ∨
      scope.skipCtes = false ∧ child ∈ q.cteList ∧ deeper = depth + 1 := by
  simp only [plan, List.mem_cons, List.mem_append, reduceCtorEq, false_or, visit_mem_toEach]
  apply or_congr Iff.rfl
  apply or_congr
  · cases scope.skipRangeTable with
    | true => simp
    | false => simp
  · cases scope.skipCtes with
    | true => simp
    | false => simp [visit_mem_toEach]

theorem Node.visit_mem_plan_of_plain {node child : Node} (hplain : node.Plain) {scope : Scope}
    {depth deeper : Nat} :
    .visit child deeper ∈ node.plan scope depth <->
      child ∈ node.children ∧ deeper = depth + 1 := by
  rw [plan_of_plain hplain]
  simp only [List.mem_cons, reduceCtorEq, false_or, visit_mem_toEach]

theorem Node.sizeOf_lt_of_visit_mem_plan {node child : Node} {scope : Scope} {depth deeper : Nat}
    (hstep : .visit child deeper ∈ node.plan scope depth) : sizeOf child < sizeOf node := by
  induction node using Node.byParts with
  | query q =>
      rcases Query.visit_mem_plan.mp hstep with
        ⟨hclause, _⟩ | ⟨_, member, hmember, hentry⟩ | ⟨_, hcte, _⟩
      · apply sizeOf_lt_of_mem_slots
        exact Query.mem_slots_of_mem_clauses hclause
      · have hsize : sizeOf member < sizeOf (Node.query q) := by
          apply sizeOf_lt_of_mem_slots
          exact Query.mem_slots_of_mem_rtable hmember
        rcases visit_mem_entryPlan.mp hentry with ⟨entry, hmemberEq, _, ⟨_, hself⟩ | hcontents⟩
        · rw [hself]
          exact hsize
        · have hinner : sizeOf child < sizeOf member := by
            rw [hmemberEq]
            exact sizeOf_lt_of_mem_slots (RangeTblEntry.mem_slots_of_mem_contents hcontents)
          omega
      · apply sizeOf_lt_of_mem_slots
        exact Query.mem_slots_of_mem_cteList hcte
  | entry entry => cases hstep
  | plain node hplain =>
      have hchild := ((visit_mem_plan_of_plain hplain).mp hstep).left
      exact sizeOf_lt_of_mem_slots (mem_slots_of_mem_children hplain hchild)

/-!
# Following plans
-/

/-- Every step of a walk that starts with a node at `depth`. -/
def Node.itinerary (scope : Scope) (node : Node) (depth : Nat) : List (Step Node) :=
  .visit node depth ::
    (node.plan scope depth).attach.flatMap fun ⟨step, hstep⟩ =>
      match step, hstep with
      | .enter deeper, _ => [.enter deeper]
      | .visit child deeper, _ => child.itinerary scope deeper
      | .refuse error, _ => [.refuse error]
termination_by sizeOf node
decreasing_by
  rename_i hstep
  exact sizeOf_lt_of_visit_mem_plan hstep

def Step.unfold (scope : Scope) : Step Node -> List (Step Node)
  | .enter depth => [.enter depth]
  | .visit node depth => node.itinerary scope depth
  | .refuse error => [.refuse error]

theorem Node.itinerary_eq (scope : Scope) (node : Node) (depth : Nat) :
    node.itinerary scope depth =
      .visit node depth :: (node.plan scope depth).flatMap (Step.unfold scope) := by
  rw [itinerary, List.flatMap_subtype (g := Step.unfold scope), List.unattach_attach]
  intro step hstep
  cases step <;> rfl

theorem Step.enter_flatMap_unfold (scope : Scope) (depth : Nat) (steps : List (Step Node)) :
    (enter depth :: steps).flatMap (Step.unfold scope) =
      enter depth :: steps.flatMap (Step.unfold scope) :=
  rfl

theorem Step.toEach_flatMap_unfold (scope : Scope) (nodes : List Node) (depth : Nat) :
    (toEach nodes depth).flatMap (Step.unfold scope) =
      nodes.flatMap fun node => node.itinerary scope depth := by
  rw [toEach, List.flatMap_map]
  rfl

theorem Node.itinerary_rangeTblEntry (scope : Scope) (entry : RangeTblEntry) (depth : Nat) :
    (Node.rangeTblEntry entry).itinerary scope depth = [.visit (.rangeTblEntry entry) depth] := by
  rw [itinerary_eq]
  rfl

/-- Induction along plans: what holds of a node as soon as it holds of every node
that its plan leads to, holds of every node. -/
@[elab_as_elim] theorem Node.inductionOnPlan {motive : Node -> Prop} (scope : Scope)
    (step : forall node : Node,
      (forall (child : Node) (depth deeper : Nat),
        .visit child deeper ∈ node.plan scope depth -> motive child) -> motive node)
    (node : Node) : motive node := by
  apply step
  intro child depth deeper hstep
  exact inductionOnPlan scope step child
termination_by sizeOf node
decreasing_by exact sizeOf_lt_of_visit_mem_plan hstep

/-!
# Traces
-/

namespace Step

variable {ν : Type}

def shown? : Step ν -> Option (ν × Nat)
  | .enter _ => none
  | .visit node depth => some (node, depth)
  | .refuse _ => none

/-- The nodes that several steps show, in order, with their depths. -/
def shown (steps : List (Step ν)) : List (ν × Nat) :=
  steps.filterMap shown?

end Step

/-- The nodes that a walk shows in order, with their depths, if nothing ends it
early. -/
def Node.trace (scope : Scope) (node : Node) (depth : Nat) : List (Node × Nat) :=
  shown (node.itinerary scope depth)

/-- What one member of a range table adds to a trace: the entry itself if the scope
asks for it, then its contents. -/
def entryTrace (trace : Scope -> Node -> Nat -> List (Node × Nat)) (scope : Scope)
    (depth : Nat) : Node -> List (Node × Nat)
  | .rangeTblEntry entry =>
      (if scope.showEntries then [(.rangeTblEntry entry, depth)] else []) ++
        (entry.contents scope).flatMap fun node => trace scope node depth
  | _ => []

/-- A trace in preorder: every node stands before those below it, which come in the order
of its fields, the grouping keys of a set operation apart.  A query has an order of its
own, with the range table one level further down and the `WITH` list last, as far as the
scope covers them; nothing is below a range-table entry. -/
structure InPreorder (trace : Scope -> Node -> Nat -> List (Node × Nat)) : Prop where
  entry : forall (scope : Scope) (entry : RangeTblEntry) (depth : Nat),
    trace scope (.rangeTblEntry entry) depth = [(.rangeTblEntry entry, depth)]
  plain : forall (scope : Scope) (node : Node) (depth : Nat), node.Plain ->
    exists below : List Node, node.slots = below ++ node.groupKeys ∧
      trace scope node depth =
        (node, depth) :: below.flatMap fun child => trace scope child (depth + 1)
  query : forall (scope : Scope) (q : Query) (depth : Nat),
    trace scope (.query q) depth =
      (.query q, depth) ::
        (((q.targetList ++ q.withCheckOptions ++ q.onConflict.toList ++ q.returningList ++
            q.jointree.toList ++ q.setOperations.toList ++ q.havingQual.toList ++
            q.limitOffset.toList ++ q.limitCount.toList).flatMap
              fun clause => trace scope clause (depth + 1)) ++
          ((if scope.skipRangeTable then []
            else q.rtable.flatMap (entryTrace trace scope (depth + 2))) ++
            (if scope.skipCtes then []
              else q.cteList.flatMap fun cte => trace scope cte (depth + 1))))

namespace Step

variable {ν : Type}

theorem shown_append (first second : List (Step ν)) :
    shown (first ++ second) = shown first ++ shown second :=
  List.filterMap_append

theorem shown_flatMap {α : Type} (steps : α -> List (Step ν)) (xs : List α) :
    shown (xs.flatMap steps) = xs.flatMap fun x => shown (steps x) :=
  List.filterMap_flatMap

theorem shown_enter (depth : Nat) (steps : List (Step ν)) :
    shown (enter depth :: steps) = shown steps :=
  rfl

theorem shown_visit (node : ν) (depth : Nat) (steps : List (Step ν)) :
    shown (visit node depth :: steps) = (node, depth) :: shown steps :=
  rfl

theorem shown_toEach_flatMap_unfold (scope : Scope) (nodes : List Node) (depth : Nat) :
    shown ((toEach nodes depth).flatMap (Step.unfold scope)) =
      nodes.flatMap fun node => node.trace scope depth := by
  rw [toEach_flatMap_unfold, shown_flatMap]
  rfl

end Step

theorem Node.trace_eq (scope : Scope) (node : Node) (depth : Nat) :
    node.trace scope depth =
      (node, depth) :: shown ((node.plan scope depth).flatMap (Step.unfold scope)) := by
  rw [trace, itinerary_eq]
  rfl

theorem Node.shown_entryPlan_flatMap_unfold (scope : Scope) (node : Node) (depth : Nat) :
    shown ((node.entryPlan scope depth).flatMap (Step.unfold scope)) =
      entryTrace (fun scope node depth => node.trace scope depth) scope (depth + 1) node := by
  cases node with
  | rangeTblEntry entry =>
      rw [entryPlan, enter_flatMap_unfold, shown_enter, List.flatMap_append, shown_append,
        shown_toEach_flatMap_unfold, entryTrace]
      congr 1
      split
      · rw [List.flatMap_singleton, Step.unfold, itinerary_rangeTblEntry]
        rfl
      · rfl
  | _ => rfl

theorem Node.trace_of_plain {node : Node} (hplain : node.Plain) (scope : Scope) (depth : Nat) :
    node.trace scope depth =
      (node, depth) :: node.children.flatMap fun child => child.trace scope (depth + 1) := by
  rw [trace_eq, plan_of_plain hplain, enter_flatMap_unfold, shown_enter,
    shown_toEach_flatMap_unfold]

theorem Node.inPreorder_trace :
    InPreorder fun scope node depth => node.trace scope depth where
  entry scope entry depth := by
    rw [trace, itinerary_rangeTblEntry]
    rfl
  plain scope node depth hplain :=
    ⟨node.children, slots_of_plain hplain, trace_of_plain hplain scope depth⟩
  query scope q depth := by
    rw [trace_eq, plan, Query.plan, enter_flatMap_unfold, shown_enter, List.flatMap_append,
      List.flatMap_append, shown_append, shown_append, shown_toEach_flatMap_unfold]
    congr 3
    · split
      · rfl
      · rw [List.flatMap_assoc, shown_flatMap]
        congr 1
        funext node
        exact shown_entryPlan_flatMap_unfold scope node (depth + 1)
    · split
      · rfl
      · exact shown_toEach_flatMap_unfold scope q.cteList (depth + 1)

theorem Node.trace_query (scope : Scope) (q : Query) (depth : Nat) :
    (Node.query q).trace scope depth =
      (.query q, depth) ::
        ((q.clauses.flatMap fun clause => clause.trace scope (depth + 1)) ++
          ((if scope.skipRangeTable then []
            else q.rtable.flatMap
              (entryTrace (fun scope node depth => node.trace scope depth) scope (depth + 2))) ++
            (if scope.skipCtes then []
              else q.cteList.flatMap fun cte => cte.trace scope (depth + 1)))) :=
  inPreorder_trace.query scope q depth

/-!
# Range tables that hold entries
-/

/-- A walk over the first node gets to the second one. -/
inductive Node.Reaches (scope : Scope) : Node -> Node -> Prop where
  | refl (node : Node) : Reaches scope node node
  | step {node child target : Node} {depth deeper : Nat} :
      .visit child deeper ∈ node.plan scope depth -> Reaches scope child target ->
        Reaches scope node target

/-- Every range table that a walk over the tree goes into holds range-table entries
only. -/
def Node.EntryTables (scope : Scope) (node : Node) : Prop :=
  forall q : Query, node.Reaches scope (.query q) -> scope.skipRangeTable = false ->
    forall member : Node, member ∈ q.rtable -> member.tag = .rangeTblEntry

namespace Node.EntryTables

theorem of_visit {node child : Node} {scope : Scope} {depth deeper : Nat}
    (htables : node.EntryTables scope) (hstep : .visit child deeper ∈ node.plan scope depth) :
    child.EntryTables scope := by
  intro q hreach
  exact htables q (Reaches.step hstep hreach)

/-- What a tree needs: a table of entries at the top if that is a query, and the same
of everything that the plan leads to. -/
theorem of_plan {node : Node} {scope : Scope}
    (htable : forall (q : Query) (member : Node),
      node = .query q -> member ∈ q.rtable -> member.tag = .rangeTblEntry)
    (hbelow : forall (child : Node) (depth deeper : Nat),
      .visit child deeper ∈ node.plan scope depth -> child.EntryTables scope) :
    node.EntryTables scope := by
  intro q hreach hskip member hmember
  cases hreach with
  | refl => exact htable q member rfl hmember
  | step hstep hrest => exact hbelow _ _ _ hstep q hrest hskip member hmember

theorem rtable {q : Query} {scope : Scope} (htables : (Node.query q).EntryTables scope)
    (hskip : scope.skipRangeTable = false) {member : Node} (hmember : member ∈ q.rtable) :
    exists entry : RangeTblEntry, member = .rangeTblEntry entry := by
  have htag := htables q (Reaches.refl _) hskip member hmember
  cases member with
  | rangeTblEntry entry => exact ⟨entry, rfl⟩
  | _ => cases htag

/-- A plan over well-formed range tables never gives up. -/
theorem refuse_notMem_plan {node : Node} {scope : Scope} (htables : node.EntryTables scope)
    (error : TreeError) (depth : Nat) : .refuse error ∉ node.plan scope depth := by
  induction node using Node.byParts with
  | query q =>
      intro hstep
      simp only [plan, Query.plan, toEach, List.mem_cons, List.mem_append, reduceCtorEq,
        false_or] at hstep
      rcases hstep with hclauses | htable | hctes
      · simp at hclauses
      · split at htable
        · cases htable
        · rename_i hskip
          rcases List.mem_flatMap.mp htable with ⟨member, hmember, hentry⟩
          rcases htables.rtable (by simpa using hskip) hmember with ⟨entry, rfl⟩
          simp only [entryPlan, toEach, List.mem_cons, List.mem_append, List.mem_map,
            reduceCtorEq, and_false, exists_false, or_false, false_or] at hentry
          split at hentry
          · simp at hentry
          · cases hentry
      · split at hctes
        · cases hctes
        · simp at hctes
  | entry entry =>
      intro hstep
      cases hstep
  | plain node hplain =>
      rw [plan_of_plain hplain]
      simp [toEach]

theorem refuse_notMem_itinerary {node : Node} {scope : Scope} (htables : node.EntryTables scope)
    (error : TreeError) (depth : Nat) : .refuse error ∉ node.itinerary scope depth := by
  induction node using Node.inductionOnPlan scope generalizing depth with
  | step node ih =>
      intro hrefuse
      rw [itinerary_eq] at hrefuse
      simp only [List.mem_cons, reduceCtorEq, false_or] at hrefuse
      rcases List.mem_flatMap.mp hrefuse with ⟨step, hstep, hunfold⟩
      cases step with
      | enter deeper => simp [Step.unfold] at hunfold
      | visit child deeper =>
          exact ih child depth deeper hstep (htables.of_visit hstep) deeper hunfold
      | refuse other => exact htables.refuse_notMem_plan other depth hstep

end Node.EntryTables

/-- A query over a subquery, neither of which selects anything. -/
def Node.nestedSelect : Node :=
  .query {
    Query.bare with
    rtable := [.rangeTblEntry {
      kind := .subquery (.query Query.bare) false
      header := {
        correlation := none, eref := { name := "inner", colnames := [] }, lateral := false,
        inh := false, inFromClause := true }
      securityQuals := [] }] }

theorem Node.entryTables_nestedSelect (scope : Scope) : nestedSelect.EntryTables scope := by
  have hentry : forall entry : RangeTblEntry, (Node.rangeTblEntry entry).EntryTables scope := by
    intro entry
    apply EntryTables.of_plan
    · intro q member hquery
      cases hquery
    · intro child depth deeper hstep
      cases hstep
  have hbare : (Node.query Query.bare).EntryTables scope := by
    apply EntryTables.of_plan
    · intro q member hquery hmember
      cases hquery
      cases hmember
    · intro child depth deeper hstep
      simp [plan, Query.plan, Query.bare, Query.clauses, toEach] at hstep
  apply EntryTables.of_plan
  · intro q member hquery hmember
    cases hquery
    rw [List.mem_singleton.mp hmember]
    rfl
  · intro child depth deeper hstep
    rcases Query.visit_mem_plan.mp hstep with
      ⟨hclause, _⟩ | ⟨_, member, hmember, hvisit⟩ | ⟨_, hcte, _⟩
    · cases hclause
    · rcases visit_mem_entryPlan.mp hvisit with ⟨entry, rfl, _, ⟨_, hself⟩ | hcontents⟩
      · rw [hself]
        exact hentry entry
      · cases List.mem_singleton.mp hmember
        have hinner := RangeTblEntry.mem_slots_of_mem_contents hcontents
        rw [List.mem_singleton.mp hinner]
        exact hbare
    · cases hcte

end QueryTree
