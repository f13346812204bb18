import Mathlib.Logic.Relation
import QueryTree.Attribute.ReturnsSet
import QueryTree.Proofs.Answers
import QueryTree.Proofs.ChildTraversal

/-!
# The search for nodes that return sets

Whether an expression returns a set is found out by a walk that stops at the first node that
does so by itself, and that does not look below the kinds that give one value.  It is
compared with the paths that lead from the expression to such a node.  A walk that goes
through has been everywhere that a path leads, and a walk that fails has come across no such
node on its way.
-/

namespace QueryTree

open Traversal Lookup

/-!
# Paths
-/

namespace Node

/-- A call or an operator that returns a set by itself. -/
inductive IsSetCall : Node -> Prop where
  | func {data : FuncExpr} {args : List Node} (hset : data.returnsSet = true) :
      IsSetCall (.funcExpr data args)
  | op {data : OpExpr} {args : List Node} (hset : data.returnsSet = true) :
      IsSetCall (.opExpr data args)

theorem isSetReturning_iff {node : Node} : node.isSetReturning = true <-> node.IsSetCall := by
  constructor
  · intro hset
    cases node with
    | funcExpr data args => exact .func hset
    | opExpr data args => exact .op hset
    | _ => cases hset
  · intro hcall
    cases hcall with
    | func hset => exact hset
    | op hset => exact hset

/-- The kinds that give one value, whatever is below them. -/
def Tag.scalarKinds : List Tag :=
  [.aggref, .windowFunc, .distinctExpr, .nullIfExpr, .scalarArrayOpExpr, .boolExpr, .subLink,
    .arrayExpr, .rowExpr, .rowCompareExpr, .coalesceExpr, .minMaxExpr, .xmlExpr]

theorem Tag.isScalarBarrier_iff {tag : Tag} :
    tag.isScalarBarrier = true <-> tag ∈ Tag.scalarKinds := by
  cases tag <;> decide

/-- Rows pass from a child on to the node above it: that is neither a query nor of a kind
that gives one value. -/
def PassesOn (node child : Node) : Prop :=
  node.tag ≠ .query ∧ node.tag ∉ Tag.scalarKinds ∧ child ∈ node.children

/-- A path leads from the node to a call or an operator that returns a set. -/
def ReachesSet (node : Node) : Prop :=
  exists found : Node, Relation.ReflTransGen PassesOn node found ∧ found.IsSetCall

theorem reachesSet_iff {node : Node} :
    node.ReachesSet <->
      node.IsSetCall ∨ exists child : Node, node.PassesOn child ∧ child.ReachesSet := by
  constructor
  · rintro ⟨found, hpath, hset⟩
    rcases hpath.cases_head with rfl | ⟨child, hchild, hrest⟩
    · exact Or.inl hset
    · exact Or.inr ⟨child, hchild, found, hrest, hset⟩
  · rintro (hset | ⟨child, hchild, found, hrest, hset⟩)
    · exact ⟨node, .refl, hset⟩
    · exact ⟨found, hrest.head hchild, hset⟩

theorem not_reachesSet_of_mem_scalarKinds {node : Node} (hset : ¬ node.IsSetCall)
    (hscalar : node.tag ∈ Tag.scalarKinds) : ¬ node.ReachesSet := by
  rw [reachesSet_iff]
  rintro (hcall | ⟨child, ⟨_, hnot, _⟩, _⟩)
  · exact hset hcall
  · exact hnot hscalar

/-- Below a node that returns no set by itself, the paths are those of its children. -/
theorem reachesSet_iff_children {node : Node} (hset : ¬ node.IsSetCall)
    (hscalar : node.tag ∉ Tag.scalarKinds) :
    node.ReachesSet <-> exists child : Node, child ∈ node.children ∧ child.ReachesSet := by
  rw [reachesSet_iff, or_iff_right hset]
  constructor
  · rintro ⟨child, ⟨_, _, hchild⟩, hreaches⟩
    exact ⟨child, hchild, hreaches⟩
  · rintro ⟨child, hchild, hreaches⟩
    exact ⟨child, ⟨(plain_of_mem_children hchild).left, hscalar, hchild⟩, hreaches⟩

end Node

/-!
# The search with a list of what it is shown
-/

/-- One step of the search, given the search for the nodes below. -/
def searchStep {σ ε : Type} [OfTreeError ε] (visit : Visitor σ ε) (node : Node) :
    Traversal σ ε Control :=
  if node.isSetReturning then pure .stop
  else if node.tag.isScalarBarrier then pure .proceed
  else walkChildren visit node

theorem findSetReturning_eq (node : Node) : node.findSetReturning = recurse searchStep node :=
  rfl

/-- The same step, which first writes the node down. -/
def notedStep (visit : Visitor (List Node) TreeError) (node : Node) :
    Traversal (List Node) TreeError Control := do
  modifyState (· ++ [node])
  searchStep visit node

/-- The search for a node that returns a set, which also writes down the nodes that it is
shown. -/
def notedSearch (node : Node) : Traversal (List Node) TreeError Control :=
  recurse notedStep node

/-- None of the nodes returns a set by itself. -/
def NoneReturnsSet (nodes : List Node) : Prop :=
  forall node : Node, node ∈ nodes -> ¬ node.IsSetCall

/-- How a search ends after it was shown some nodes.  Only the last node of a search that
stops returns a set; one that goes through has found out that there is nothing to reach. -/
inductive SearchEnds (reaches : Prop) : List Node -> Except TreeError Control -> Prop where
  | found {before : List Node} {found : Node} (hreaches : reaches)
      (hbefore : NoneReturnsSet before) (hfound : found.IsSetCall) :
      SearchEnds reaches (before ++ [found]) (.ok .stop)
  | through {shown : List Node} (hnot : ¬ reaches) (hshown : NoneReturnsSet shown) :
      SearchEnds reaches shown (.ok .proceed)
  | failed {shown : List Node} {error : TreeError} (hshown : NoneReturnsSet shown) :
      SearchEnds reaches shown (.error error)

namespace SearchEnds

variable {reaches other : Prop} {shown rest : List Node} {outcome : Except TreeError Control}

theorem congr (hends : SearchEnds reaches shown outcome) (hiff : other <-> reaches) :
    SearchEnds other shown outcome := by
  rw [propext hiff]
  exact hends

/-- Nodes that return no set may have been shown before. -/
theorem append (hshown : NoneReturnsSet shown) (hends : SearchEnds reaches rest outcome) :
    SearchEnds reaches (shown ++ rest) outcome := by
  have hboth : forall {nodes : List Node}, NoneReturnsSet nodes ->
      NoneReturnsSet (shown ++ nodes) :=
    fun hnodes => List.forall_mem_append.mpr ⟨hshown, hnodes⟩
  cases hends with
  | found hreaches hbefore hfound =>
      rw [← List.append_assoc]
      exact .found hreaches (hboth hbefore) hfound
  | through hnot hrest => exact .through hnot (hboth hrest)
  | failed hrest => exact .failed (hboth hrest)

end SearchEnds

/-!
# Running the search
-/

/-- From this depth, the search that takes notes ends as the plain one does, and after what
it was shown it ends as it should. -/
def Searches (limit depth : Nat) (noted : Traversal (List Node) TreeError Control)
    (plain : Lookup Control) (reaches : Prop) : Prop :=
  forall log : List Node, exists (shown : List Node) (outcome : Except TreeError Control),
    runFrom noted { depth, limit } log = (outcome, { depth, limit }, log ++ shown) ∧
      runFrom plain { depth, limit } () = (outcome, { depth, limit }, ()) ∧
      SearchEnds reaches shown outcome

section

variable {limit depth : Nat}

theorem searches_raise (error : TreeError) (reaches : Prop) :
    Searches limit depth (raise error) (raise error) reaches := by
  intro log
  refine ⟨[], .error error, ?_, rfl, .failed (List.forall_mem_nil _)⟩
  rw [List.append_nil]
  rfl

theorem Searches.guarded {noted : Traversal (List Node) TreeError Control}
    {plain : Lookup Control} {reaches : Prop}
    (hstep : depth < limit -> Searches limit (depth + 1) noted plain reaches) :
    Searches limit depth (guarded noted) (guarded plain) reaches := by
  intro log
  rw [runFrom_guarded, runFrom_guarded, Nesting.enter?]
  by_cases hlimit : depth + 1 <= limit
  · simp only [if_pos hlimit]
    rcases hstep hlimit log with ⟨shown, outcome, hnoted, hplain, hends⟩
    rw [hnoted, hplain]
    exact ⟨shown, outcome, rfl, rfl, hends⟩
  · simp only [if_neg hlimit]
    refine ⟨[], _, ?_, rfl, .failed (List.forall_mem_nil _)⟩
    rw [List.append_nil]

variable {noted : Visitor (List Node) TreeError} {plain : Visitor Unit TreeError}

/-- The first member from which a set is reached ends the search. -/
theorem searches_visitAll {nodes : List Node}
    (heach : forall node : Node, node ∈ nodes ->
      Searches limit depth (noted node) (plain node) node.ReachesSet) :
    Searches limit depth (visitAll noted nodes) (visitAll plain nodes)
      (exists node : Node, node ∈ nodes ∧ node.ReachesSet) := by
  induction nodes with
  | nil =>
      intro log
      refine ⟨[], .ok .proceed, ?_, rfl, .through (by simp) (List.forall_mem_nil _)⟩
      rw [List.append_nil]
      rfl
  | cons first rest ih =>
      intro log
      rw [List.forall_mem_cons] at heach
      rcases heach.left log with ⟨shown, outcome, hnoted, hplain, hends⟩
      rw [visitAll, visitAll, runFrom_andThen, runFrom_andThen, hnoted, hplain]
      cases hends with
      | found hreaches hbefore hfound =>
          refine ⟨_, .ok .stop, rfl, rfl, .found ?_ hbefore hfound⟩
          exact ⟨first, List.mem_cons_self, hreaches⟩
      | failed hshown => exact ⟨_, _, rfl, rfl, .failed hshown⟩
      | through hnot hshown =>
          rcases ih heach.right (log ++ shown) with ⟨others, outcome, hrest, hplainRest, hends⟩
          refine ⟨shown ++ others, outcome, ?_, hplainRest, (hends.append hshown).congr ?_⟩
          · rw [← List.append_assoc]
            exact hrest
          · simp [hnot]

theorem searches_walkChildren {node : Node} (hset : ¬ node.IsSetCall)
    (hscalar : node.tag ∉ Node.Tag.scalarKinds)
    (hbelow : depth < limit -> forall child : Node, child ∈ node.children ->
      Searches limit (depth + 1) (noted child) (plain child) child.ReachesSet) :
    Searches limit depth (walkChildren noted node) (walkChildren plain node) node.ReachesSet := by
  by_cases hentry : node.tag = .rangeTblEntry
  · cases node with
    | rangeTblEntry entry => exact Searches.guarded fun _ => searches_raise _ _
    | _ => cases hentry
  · rw [walkChildren_of_tag_ne hentry, walkChildren_of_tag_ne hentry,
      propext (Node.reachesSet_iff_children hset hscalar)]
    exact Searches.guarded fun hroom => searches_visitAll (hbelow hroom)

/-- A step does its part if the steps below do theirs. -/
theorem searches_step (node : Node)
    (hbelow : depth < limit -> forall child : Node, child ∈ node.children ->
      Searches limit (depth + 1) (noted child) (plain child) child.ReachesSet) :
    Searches limit depth (notedStep noted node) (searchStep plain node) node.ReachesSet := by
  intro log
  have hnote : runFrom (notedStep noted node) { depth, limit } log =
      runFrom (searchStep noted node) { depth, limit } (log ++ [node]) :=
    rfl
  rw [hnote, searchStep, searchStep]
  by_cases hset : node.isSetReturning = true
  · have hcall := Node.isSetReturning_iff.mp hset
    rw [if_pos hset, if_pos hset]
    refine ⟨[] ++ [node], .ok .stop, rfl, rfl, .found ?_ (List.forall_mem_nil _) hcall⟩
    exact Node.reachesSet_iff.mpr (Or.inl hcall)
  · have hcall : ¬ node.IsSetCall := fun hcall => hset (Node.isSetReturning_iff.mpr hcall)
    have hshown : NoneReturnsSet [node] := List.forall_mem_singleton.mpr hcall
    rw [if_neg hset, if_neg hset]
    by_cases hbarrier : node.tag.isScalarBarrier = true
    · rw [if_pos hbarrier, if_pos hbarrier]
      refine ⟨[node], .ok .proceed, rfl, rfl, .through ?_ hshown⟩
      exact Node.not_reachesSet_of_mem_scalarKinds hcall (Node.Tag.isScalarBarrier_iff.mp hbarrier)
    · have hscalar : node.tag ∉ Node.Tag.scalarKinds :=
        fun hmem => hbarrier (Node.Tag.isScalarBarrier_iff.mpr hmem)
      rw [if_neg hbarrier, if_neg hbarrier]
      rcases searches_walkChildren hcall hscalar hbelow (log ++ [node]) with
        ⟨shown, outcome, hnoted, hplain, hends⟩
      refine ⟨[node] ++ shown, outcome, ?_, hplain, hends.append hshown⟩
      rw [← List.append_assoc]
      exact hnoted

end

theorem searches_notedSearch (limit depth : Nat) (node : Node) :
    Searches limit depth (notedSearch node) node.findSetReturning node.ReachesSet := by
  -- the levels that remain bound the recursion, so it never runs out before the limit does
  have hbounded : forall (levels : Nat) (node : Node) (depth : Nat), limit - depth < levels ->
      Searches limit depth (recurse.bounded notedStep levels node)
        (recurse.bounded searchStep levels node) node.ReachesSet := by
    intro levels
    induction levels with
    | zero =>
        intro node depth hlevels
        omega
    | succ levels ih =>
        intro node depth hlevels
        apply searches_step
        intro hroom child _hchild
        apply ih
        omega
  intro log
  rw [notedSearch, findSetReturning_eq, runFrom_recurse, runFrom_recurse]
  exact hbounded (limit - depth + 1) node depth (Nat.lt_succ_self _) log

/-- An expression is said to return a set exactly if a path leads from it to a call or an
operator that does, past no query and no kind that gives one value.  If that cannot be found
out, then none of the nodes that the search was shown before it failed returns a set. -/
theorem returnsSet_iff_reachesSet (node : Node) (nesting : Nesting) :
    (forall answer : Bool, node.returnsSet.answer nesting = .ok answer ->
      (answer = true <-> node.ReachesSet)) ∧
      exists shown : List Node,
        runFrom (notedSearch node) nesting [] =
            (node.findSetReturning.answer nesting, nesting, shown) ∧
          forall error : TreeError, node.returnsSet.answer nesting = .error error ->
            NoneReturnsSet shown := by
  rcases searches_notedSearch nesting.limit nesting.depth node [] with
    ⟨shown, outcome, hnoted, hplain, hends⟩
  have hfind : node.findSetReturning.answer nesting = outcome := congrArg Prod.fst hplain
  have hreturns : node.returnsSet.answer nesting =
      outcome.map fun control => decide (control = .stop) := by
    rw [Node.returnsSet, Lookup.answer, runFrom_bind, hplain]
    cases outcome with
    | error error => rfl
    | ok control => rfl
  rw [hfind, hreturns]
  cases hends with
  | found hreaches _ _ =>
      refine ⟨?_, _, hnoted, ?_⟩
      · intro answer hanswer
        cases hanswer
        exact iff_of_true rfl hreaches
      · intro error herror
        cases herror
  | through hnot _ =>
      refine ⟨?_, _, hnoted, ?_⟩
      · intro answer hanswer
        cases hanswer
        exact iff_of_false Bool.false_ne_true hnot
      · intro error herror
        cases herror
  | failed hshown =>
      refine ⟨?_, _, hnoted, fun _ _ => hshown⟩
      intro answer hanswer
      cases hanswer

/-- Numbers, one after the other. -/
def series : Node :=
  .funcExpr
    { funcOid := 1067, resultType := BuiltinType.int4.toOid, returnsSet := true,
      variadic := false, format := .explicitCall, collation := Oid.invalid,
      inputCollation := Oid.invalid, location := none } [.ofInt4 1, .ofInt4 3]

/-- A sum, and a sum of numbers one after the other. -/
def sumAndSeries : Node :=
  .list
    [.binary 551 177 BuiltinType.int4.toOid (.ofInt4 1) (.ofInt4 2),
      .binary 551 177 BuiltinType.int4.toOid series (.ofInt4 1)]

/-- With three levels the search gets to the series.  With one it fails at the operands of the
first sum, and has then been shown the list and that sum. -/
theorem returnsSet_iff_reachesSet_sumAndSeries :
    sumAndSeries.returnsSet.answer (.start 3) = .ok true ∧ sumAndSeries.ReachesSet ∧
      sumAndSeries.returnsSet.answer (.start 1) = .error (.stackDepthExceeded 2 1) ∧
      exists shown : List Node,
        runFrom (notedSearch sumAndSeries) (.start 1) [] =
            (.error (.stackDepthExceeded 2 1), .start 1, shown) ∧
          shown.length = 2 ∧ NoneReturnsSet shown := by
  have hanswer : sumAndSeries.returnsSet.answer (.start 3) = .ok true := rfl
  have herror : sumAndSeries.returnsSet.answer (.start 1) = .error (.stackDepthExceeded 2 1) := rfl
  rcases returnsSet_iff_reachesSet sumAndSeries (.start 3) with ⟨hexact, _⟩
  rcases returnsSet_iff_reachesSet sumAndSeries (.start 1) with ⟨_, shown, hshown, hnone⟩
  refine ⟨hanswer, (hexact true hanswer).mp rfl, herror, shown, hshown, ?_, hnone _ herror⟩
  cases hshown
  rfl

end QueryTree
