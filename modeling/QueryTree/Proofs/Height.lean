import Mathlib.Data.List.MinMax
import Mathlib.Order.Nat
import QueryTree.Proofs.DepthLimit

/-!
# The height of a tree

How many levels of nesting a walk needs can be read off the tree: every node takes a
level for what is below it, a range table takes one more for each of its entries, and an
entry that is shown takes none.  A walk or a transformation that lets everything pass
succeeds within a limit just when the tree is not higher than the limit.
-/

namespace QueryTree

open Traversal Step

/-!
# Largest numbers
-/

/-- The largest of some numbers, and zero if there are none. -/
def highest (numbers : List Nat) : Nat :=
  numbers.foldr max 0

theorem highest_cons (number : Nat) (rest : List Nat) :
    highest (number :: rest) = max number (highest rest) :=
  rfl

theorem le_highest {number : Nat} {numbers : List Nat} (hnumber : number ∈ numbers) :
    number <= highest numbers :=
  List.le_max_of_le hnumber (Nat.le_refl number)

theorem highest_le_iff {numbers : List Nat} {bound : Nat} :
    highest numbers <= bound <-> forall number : Nat, number ∈ numbers -> number <= bound := by
  constructor
  · intro hbound number hnumber
    exact Nat.le_trans (le_highest hnumber) hbound
  · exact List.max_le_of_forall_le numbers bound

theorem highest_append (first second : List Nat) :
    highest (first ++ second) = max (highest first) (highest second) := by
  apply eq_of_forall_ge_iff
  intro bound
  rw [Nat.max_le, highest_le_iff, highest_le_iff, highest_le_iff, List.forall_mem_append]

theorem max_max_eq_add {base first second a b : Nat} (hfirst : max base first = base + a)
    (hsecond : max base second = base + b) : max base (max first second) = base + max a b := by
  rw [← Nat.max_assoc, hfirst]
  omega

/-!
# Heights
-/

/-- What a member of a range table holds, if it is an entry. -/
def Node.entryContents (scope : Scope) : Node -> List Node
  | .rangeTblEntry entry => entry.contents scope
  | _ => []

theorem Node.sizeOf_lt_of_mem_entryContents {scope : Scope} {child member : Node}
    (hchild : child ∈ member.entryContents scope) : sizeOf child < sizeOf member := by
  cases member with
  | rangeTblEntry entry =>
      exact sizeOf_lt_of_mem_slots (RangeTblEntry.mem_slots_of_mem_contents hchild)
  | _ => cases hchild

/-- How many levels of nesting a walk over the tree needs. -/
def Node.height (scope : Scope) (node : Node) : Nat :=
  match node with
  | .query q =>
      let clauses := q.clauses.attach.map fun ⟨clause, _⟩ => clause.height scope
      let entries := q.rtable.attach.map fun ⟨member, _⟩ =>
        1 + highest ((member.entryContents scope).attach.map fun ⟨child, _⟩ => child.height scope)
      let ctes := q.cteList.attach.map fun ⟨cte, _⟩ => cte.height scope
      1 + highest
        (clauses ++ (if scope.skipRangeTable then [] else entries) ++
          (if scope.skipCtes then [] else ctes))
  | .rangeTblEntry _ => 0
  | node => 1 + highest (node.children.attach.map fun ⟨child, _⟩ => child.height scope)
termination_by sizeOf node
decreasing_by
  · exact sizeOf_lt_of_mem_slots (Query.mem_slots_of_mem_clauses ‹_›)
  · rename_i hmember hchild
    have hsize : sizeOf _ < sizeOf (Node.query q) :=
      sizeOf_lt_of_mem_slots (Query.mem_slots_of_mem_rtable hmember)
    have hinner := sizeOf_lt_of_mem_entryContents hchild
    omega
  · exact sizeOf_lt_of_mem_slots (Query.mem_slots_of_mem_cteList ‹_›)
  · exact sizeOf_lt_of_mem_children ‹_›

namespace Node

variable (scope : Scope)

theorem height_query (q : Query) :
    (Node.query q).height scope =
      1 + highest
        (q.clauses.map (height scope) ++
          (if scope.skipRangeTable then []
            else q.rtable.map fun member =>
              1 + highest ((member.entryContents scope).map (height scope))) ++
          (if scope.skipCtes then [] else q.cteList.map (height scope))) := by
  rw [height]
  simp only [List.map_subtype, List.unattach_attach]

theorem height_rangeTblEntry (entry : RangeTblEntry) :
    (Node.rangeTblEntry entry).height scope = 0 := by
  rw [height]

theorem height_of_plain {node : Node} (hplain : node.Plain) :
    node.height scope = 1 + highest (node.children.map (height scope)) := by
  cases node with
  | query q => exact absurd rfl hplain.left
  | rangeTblEntry entry => exact absurd rfl hplain.right
  | _ =>
      rw [height]
      · simp only [List.map_subtype, List.unattach_attach]
      all_goals simp

end Node

/-!
# The levels of an itinerary
-/

namespace Step

def level? : Step Node -> Option Nat
  | .enter depth => some depth
  | .visit _ _ => none
  | .refuse _ => none

/-- The deepest level that is taken along some steps. -/
def peak (steps : List (Step Node)) : Nat :=
  highest (steps.filterMap level?)

theorem peak_enter (depth : Nat) (steps : List (Step Node)) :
    peak (enter depth :: steps) = max depth (peak steps) :=
  rfl

theorem peak_visit (node : Node) (depth : Nat) (steps : List (Step Node)) :
    peak (visit node depth :: steps) = peak steps :=
  rfl

theorem peak_append (first second : List (Step Node)) :
    peak (first ++ second) = max (peak first) (peak second) := by
  rw [peak, List.filterMap_append, highest_append]
  rfl

/-- Steps that each reach up to some height above the same depth reach up to the largest
of these heights. -/
theorem max_peak_flatMap {α : Type} {steps : α -> List (Step Node)} {height : α -> Nat}
    {depth : Nat} {xs : List α}
    (heach : forall x : α, x ∈ xs -> max depth (peak (steps x)) = depth + height x) :
    max depth (peak (xs.flatMap steps)) = depth + highest (xs.map height) := by
  induction xs with
  | nil => exact Nat.max_zero depth
  | cons x rest ih =>
      have hfirst := heach x List.mem_cons_self
      have hrest := ih fun y hy => heach y (List.mem_cons_of_mem x hy)
      rw [List.flatMap_cons, peak_append, List.map_cons, highest_cons]
      exact max_max_eq_add hfirst hrest

end Step

namespace Node

variable {scope : Scope}

theorem max_peak_toEach {nodes : List Node} {depth : Nat}
    (hnodes : forall node : Node, node ∈ nodes ->
      max depth (peak (node.itinerary scope depth)) = depth + node.height scope) :
    max depth (peak ((toEach nodes depth).flatMap (Step.unfold scope))) =
      depth + highest (nodes.map (height scope)) := by
  rw [toEach_flatMap_unfold]
  exact max_peak_flatMap hnodes

theorem max_peak_entryPlan {member : Node} {depth : Nat}
    (hcontents : forall child : Node, child ∈ member.entryContents scope ->
      max (depth + 1) (peak (child.itinerary scope (depth + 1))) =
        depth + 1 + child.height scope) :
    max depth (peak ((member.entryPlan scope depth).flatMap (Step.unfold scope))) =
      depth + (1 + highest ((member.entryContents scope).map (height scope))) := by
  cases member with
  | rangeTblEntry entry =>
      have hbelow := max_peak_toEach hcontents
      -- an entry that is shown takes no level
      have hshown : peak ((if scope.showEntries
          then [visit (.rangeTblEntry entry) (depth + 1)] else []).flatMap
            (Step.unfold scope)) = 0 := by
        split
        · rw [List.flatMap_singleton, Step.unfold, itinerary_rangeTblEntry]
          rfl
        · rfl
      simp only [entryContents] at hbelow ⊢
      rw [entryPlan, enter_flatMap_unfold, List.flatMap_append, peak_enter, peak_append, hshown]
      omega
  | _ =>
      show max depth (max (depth + 1) 0) = depth + (1 + 0)
      omega

theorem max_peak_query {q : Query} {depth : Nat}
    (hbelow : forall (child : Node) (deeper : Nat),
      .visit child deeper ∈ (Node.query q).plan scope depth ->
        max deeper (peak (child.itinerary scope deeper)) = deeper + child.height scope) :
    max depth (peak ((q.plan scope depth).flatMap (Step.unfold scope))) =
      depth + (Node.query q).height scope := by
  have hclauses : max (depth + 1) (peak
      ((toEach q.clauses (depth + 1)).flatMap (Step.unfold scope))) =
      depth + 1 + highest (q.clauses.map (height scope)) := by
    apply max_peak_toEach
    intro clause hclause
    exact hbelow clause _ (Query.visit_mem_plan.mpr (Or.inl ⟨hclause, rfl⟩))
  have hrtable : max (depth + 1) (peak
      ((if scope.skipRangeTable then []
        else q.rtable.flatMap (entryPlan scope (depth + 1))).flatMap (Step.unfold scope))) =
      depth + 1 + highest
        (if scope.skipRangeTable then []
          else q.rtable.map fun member =>
            1 + highest ((member.entryContents scope).map (height scope))) := by
    split
    · exact Nat.max_zero _
    · rename_i hskip
      rw [List.flatMap_assoc]
      apply max_peak_flatMap
      intro member hmember
      apply max_peak_entryPlan
      intro child hchild
      apply hbelow
      refine Query.visit_mem_plan.mpr (Or.inr (Or.inl ⟨by simpa using hskip, member, hmember, ?_⟩))
      cases member with
      | rangeTblEntry entry =>
          exact visit_mem_entryPlan.mpr ⟨entry, rfl, rfl, Or.inr hchild⟩
      | _ => cases hchild
  have hctes : max (depth + 1) (peak
      ((if scope.skipCtes then [] else toEach q.cteList (depth + 1)).flatMap
        (Step.unfold scope))) =
      depth + 1 + highest (if scope.skipCtes then [] else q.cteList.map (height scope)) := by
    split
    · exact Nat.max_zero _
    · rename_i hskip
      apply max_peak_toEach
      intro cte hcte
      exact hbelow cte _
        (Query.visit_mem_plan.mpr (Or.inr (Or.inr ⟨by simpa using hskip, hcte, rfl⟩)))
  have hall := max_max_eq_add hclauses (max_max_eq_add hrtable hctes)
  rw [Query.plan, enter_flatMap_unfold, List.flatMap_append, List.flatMap_append, peak_enter,
    peak_append, peak_append, hall, height_query, highest_append, highest_append, Nat.max_assoc]
  omega

/-- The deepest level of an itinerary is as far below its start as the tree is high. -/
theorem max_peak_itinerary (node : Node) (depth : Nat) :
    max depth (peak (node.itinerary scope depth)) = depth + node.height scope := by
  induction node using Node.inductionOnPlan scope generalizing depth with
  | step node ih =>
      rw [itinerary_eq, peak_visit]
      induction node using Node.byParts with
      | query q =>
          apply max_peak_query
          intro child deeper hstep
          exact ih child depth deeper hstep deeper
      | entry entry =>
          rw [height_rangeTblEntry]
          exact Nat.max_zero depth
      | plain node hplain =>
          have hchildren : max (depth + 1) (peak
              ((toEach node.children (depth + 1)).flatMap (Step.unfold scope))) =
              depth + 1 + highest (node.children.map (height scope)) := by
            apply max_peak_toEach
            intro child hchild
            exact ih child depth _ ((visit_mem_plan_of_plain hplain).mpr ⟨hchild, rfl⟩) _
          rw [plan_of_plain hplain, enter_flatMap_unfold, peak_enter, height_of_plain scope hplain]
          omega

end Node

/-- Steps that refuse nothing can be taken when the deepest level is within the limit. -/
theorem passes_iff_peak_le {limit : Nat} {steps : List (Step Node)}
    (hrefuse : forall error : TreeError, .refuse error ∉ steps) :
    (forall step : Step Node, step ∈ steps -> step.Passes limit) <-> peak steps <= limit := by
  rw [peak, highest_le_iff]
  constructor
  · intro hpasses depth hdepth
    rcases List.mem_filterMap.mp hdepth with ⟨step, hstep, hlevel⟩
    have hpass := hpasses step hstep
    cases step with
    | enter deeper =>
        cases hlevel
        exact hpass
    | visit node deeper => cases hlevel
    | refuse error => cases hlevel
  · intro hlevels step hstep
    cases step with
    | enter depth => exact hlevels depth (List.mem_filterMap.mpr ⟨_, hstep, rfl⟩)
    | visit node depth => trivial
    | refuse error => exact hrefuse error hstep

/-!
# Exactly enough levels
-/

variable {σ ε : Type} [OfTreeError ε]

/-- The walk that lets everything pass goes to the end when the limit allows for all levels
of its itinerary. -/
theorem walkTree_proceed_ok_iff {scope : Scope} {node : Node} (htables : node.EntryTables scope)
    (limit : Nat) (state : σ) :
    (runFrom (walkTree (fun _ => pure .proceed : Visitor σ ε) scope node) (.start limit)
        state).1 = .ok .proceed <-> node.height scope <= limit := by
  have hpeak : peak (node.itinerary scope 0) = node.height scope := by
    have hmax : max 0 (peak (node.itinerary scope 0)) = 0 + node.height scope :=
      node.max_peak_itinerary 0
    rw [Nat.zero_max, Nat.zero_add] at hmax
    exact hmax
  have hpasses : (forall step : Step Node, step ∈ node.itinerary scope 0 -> step.Passes limit) <->
      node.height scope <= limit := by
    rw [← hpeak]
    apply passes_iff_peak_le
    intro error
    exact htables.refuse_notMem_itinerary error 0
  constructor
  · intro hok
    exact hpasses.mp (notes_proceed.runFrom_walkTree.mp (Prod.ext hok rfl)).left
  · intro hheight
    have hrun : runFrom (walkTree (fun _ => pure .proceed : Visitor σ ε) scope node)
        (.start limit) state = (.ok .proceed, _) :=
      notes_proceed.runFrom_walkTree.mpr ⟨hpasses.mpr hheight, rfl, rfl⟩
    exact congrArg Prod.fst hrun

/-- Starting with nothing under way, a walk and a transformation that let everything pass
succeed within a limit that is at least the height of the tree.  Within any other limit both
fail at the first level beyond it. -/
theorem walkTree_transformTree_ok_iff_height_le (scope : Scope) (node : Node)
    (htables : node.EntryTables scope) (limit : Nat) (state : σ) :
    (runFrom (walkTree (fun _ => pure .proceed : Visitor σ ε) scope node) (.start limit)
        state).1 =
      (if node.height scope <= limit then .ok .proceed
        else .error (OfTreeError.ofTreeError (.stackDepthExceeded (limit + 1) limit))) ∧
    (runFrom (transformTree (fun _ => pure none : Node -> Traversal σ ε (Option Node)) scope
        node) (.start limit) state).1 =
      (if node.height scope <= limit then .ok node
        else .error (OfTreeError.ofTreeError (.stackDepthExceeded (limit + 1) limit))) := by
  have hmirrors : Mirrors True (walkTree (fun _ => pure .proceed : Visitor σ ε) scope node)
      (transformTree (fun _ => pure none) scope node) node :=
    mirrors_tree (fun _ => pure ()) node fun _ => htables
  have hcutOff : OnlyCutOff (walkTree (fun _ => pure .proceed : Visitor σ ε) scope node) :=
    onlyCutOff_of_curtails fun limits => curtails_walkTree (fun _ _ => curtails_pure _) scope node 0
  have hok := walkTree_proceed_ok_iff (σ := σ) (ε := ε) htables limit state
  rcases hmirrors.walk_outcome (.start limit) state with ⟨outcome, hwalk⟩
  have htransform := hmirrors.transform_run (Prod.ext hwalk rfl)
  have houtcome : outcome =
      if node.height scope <= limit then .ok ()
      else .error (OfTreeError.ofTreeError (.stackDepthExceeded (limit + 1) limit)) := by
    split
    · rename_i hheight
      have hproceed := hok.mpr hheight
      rw [hwalk] at hproceed
      cases outcome with
      | ok value => rfl
      | error error => cases hproceed
    · rename_i hheight
      -- under a limit that is large enough the walk succeeds, so here it must have been cut off
      have hlarger := (walkTree_proceed_ok_iff (σ := σ) (ε := ε) htables
        (max limit (node.height scope)) state).mpr (Nat.le_max_right _ _)
      rcases hcutOff limit _ state (Nat.le_max_left limit (node.height scope)) with
        hcut | ⟨hsame, _⟩
      · rw [hwalk] at hcut
        cases outcome with
        | ok value => cases hcut
        | error error =>
            cases hcut
            rfl
      · exact absurd (hok.mp (hsame.trans hlarger)) hheight
  rw [hwalk, htransform, houtcome]
  split
  · exact ⟨rfl, rfl⟩
  · exact ⟨rfl, rfl⟩

/-- Two queries take a level each, and the range table between them takes a third one, which
two levels leave no room for. -/
theorem walkTree_transformTree_ok_iff_height_le_nestedSelect :
    Node.nestedSelect.height { showEntries := true } = 3 ∧
      (runFrom (walkTree (fun _ => pure .proceed : Visitor Unit TreeError)
          { showEntries := true } Node.nestedSelect) (.start 3) ()).1 = .ok .proceed ∧
      (runFrom (transformTree (fun _ => pure none : Node -> Lookup (Option Node))
          { showEntries := true } Node.nestedSelect) (.start 2) ()).1 =
        .error (.stackDepthExceeded 3 2) := by
  have hheight : Node.nestedSelect.height { showEntries := true } = 3 := by
    rw [Node.nestedSelect, Node.height_query]
    simp [Query.clauses, Query.bare, Node.entryContents, RangeTblEntry.contents,
      RteKind.contents, Node.height_query, highest]
  have hthree := walkTree_transformTree_ok_iff_height_le (ε := TreeError) { showEntries := true }
    Node.nestedSelect (Node.entryTables_nestedSelect _) 3 ()
  have htwo := walkTree_transformTree_ok_iff_height_le (ε := TreeError) { showEntries := true }
    Node.nestedSelect (Node.entryTables_nestedSelect _) 2 ()
  rw [hheight] at hthree htwo
  exact ⟨hheight, hthree.left, htwo.right⟩

end QueryTree
