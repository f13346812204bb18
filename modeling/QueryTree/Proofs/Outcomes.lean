import Mathlib.Data.List.Forall2
import QueryTree.Proofs.Lockstep

/-!
# How computations end

A computation that starts at some depth ends with an answer or with an error.  There
is one rule for each building block, which tells the answers and the errors of the
whole from those of its parts.  A recursion may rely on its calls at greater depths;
the levels that it has never run out before the limit does.
-/

namespace QueryTree

open Traversal

variable {σ ε α β : Type}

/-- Started at this depth under this limit, the computation gives back all levels that it
took, and its answers and its errors are as stated. -/
def Ends (limit depth : Nat) (computation : Traversal σ ε α) (answers : α -> Prop)
    (fails : ε -> Prop) : Prop :=
  forall state : σ,
    (exists (answer : α) (after : σ),
      runFrom computation { depth, limit } state = (.ok answer, { depth, limit }, after) ∧
        answers answer) ∨
    (exists (error : ε) (after : σ),
      runFrom computation { depth, limit } state = (.error error, { depth, limit }, after) ∧
        fails error)

variable {limit depth : Nat} {fails : ε -> Prop}

/-!
# Rules for the building blocks
-/

theorem ends_pure {answers : α -> Prop} {answer : α} (hanswer : answers answer) :
    Ends limit depth (pure answer : Traversal σ ε α) answers fails := by
  intro state
  exact Or.inl ⟨answer, state, rfl, hanswer⟩

theorem ends_raise [OfTreeError ε] {answers : α -> Prop} {error : TreeError}
    (herror : fails (OfTreeError.ofTreeError error)) :
    Ends limit depth (raise error : Traversal σ ε α) answers fails := by
  intro state
  exact Or.inr ⟨_, state, rfl, herror⟩

namespace Ends

theorem mono {computation : Traversal σ ε α} {answers others : α -> Prop}
    (hends : Ends limit depth computation answers fails)
    (himplies : forall answer : α, answers answer -> others answer) :
    Ends limit depth computation others fails := by
  intro state
  rcases hends state with ⟨answer, after, hrun, hanswer⟩ | hfails
  · exact Or.inl ⟨answer, after, hrun, himplies answer hanswer⟩
  · exact Or.inr hfails

theorem bind {first : Traversal σ ε α} {next : α -> Traversal σ ε β} {between : α -> Prop}
    {answers : β -> Prop} (hfirst : Ends limit depth first between fails)
    (hnext : forall x : α, between x -> Ends limit depth (next x) answers fails) :
    Ends limit depth (first >>= next) answers fails := by
  intro state
  rw [runFrom_bind]
  rcases hfirst state with ⟨x, after, hrun, hx⟩ | ⟨error, after, hrun, herror⟩
  · rw [hrun]
    exact hnext x hx after
  · rw [hrun]
    exact Or.inr ⟨error, after, rfl, herror⟩

theorem map {step : Traversal σ ε α} {between : α -> Prop} {answers : β -> Prop} {f : α -> β}
    (hstep : Ends limit depth step between fails)
    (hf : forall x : α, between x -> answers (f x)) :
    Ends limit depth (step >>= fun x => pure (f x)) answers fails := by
  apply hstep.bind
  intro x hx
  exact ends_pure (hf x hx)

/-- A list of answers has one for each member. -/
theorem mapM {transform : α -> Traversal σ ε β} {post : α -> β -> Prop} {xs : List α}
    (heach : forall x : α, x ∈ xs -> Ends limit depth (transform x) (post x) fails) :
    Ends limit depth (xs.mapM transform) (List.Forall₂ post xs) fails := by
  induction xs with
  | nil => exact ends_pure .nil
  | cons x rest ih =>
      rw [List.mapM_cons]
      apply bind (heach x List.mem_cons_self)
      intro y hy
      apply map (ih fun other hother => heach other (List.mem_cons_of_mem x hother))
      intro ys hys
      exact .cons hy hys

theorem visitAll {visit : α -> Traversal σ ε Control} {xs : List α}
    (heach : forall x : α, x ∈ xs -> Ends limit depth (visit x) (fun _ => True) fails) :
    Ends limit depth (visitAll visit xs) (fun _ => True) fails := by
  induction xs with
  | nil => exact ends_pure trivial
  | cons x rest ih =>
      apply bind (heach x List.mem_cons_self)
      intro control _
      cases control with
      | stop => exact ends_pure trivial
      | proceed => exact ih fun other hother => heach other (List.mem_cons_of_mem x hother)

theorem guarded [OfTreeError ε] {step : Traversal σ ε α} {answers : α -> Prop}
    (hcut : limit <= depth ->
      fails (OfTreeError.ofTreeError (.stackDepthExceeded (depth + 1) limit)))
    (hstep : depth < limit -> Ends limit (depth + 1) step answers fails) :
    Ends limit depth (guarded step) answers fails := by
  intro state
  rw [runFrom_guarded, Nesting.enter?]
  by_cases hlimit : depth + 1 <= limit
  · simp only [if_pos hlimit]
    rcases hstep hlimit state with ⟨x, after, hrun, hx⟩ | ⟨error, after, hrun, herror⟩
    · rw [hrun]
      exact Or.inl ⟨x, after, rfl, hx⟩
    · rw [hrun]
      exact Or.inr ⟨error, after, rfl, herror⟩
  · simp only [if_neg hlimit]
    exact Or.inr ⟨_, state, rfl, hcut (Nat.le_of_not_lt hlimit)⟩

/-- A recursion ends as its step does, given calls of itself that do so at every greater
depth within the limit. -/
theorem recurse [OfTreeError ε] {step : (α -> Traversal σ ε β) -> α -> Traversal σ ε β}
    (needs : α -> Nat -> Prop) (answers : α -> Nat -> β -> Prop)
    (hstep : forall (visit : α -> Traversal σ ε β) (depth : Nat),
      (forall (x : α) (deeper : Nat), depth < deeper -> deeper <= limit -> needs x deeper ->
        Ends limit deeper (visit x) (answers x deeper) fails) ->
      forall x : α, needs x depth -> Ends limit depth (step visit x) (answers x depth) fails)
    {input : α} (hinput : needs input depth) :
    Ends limit depth (Traversal.recurse step input) (answers input depth) fails := by
  have hbounded : forall (levels : Nat) (x : α) (depth : Nat), limit - depth < levels ->
      needs x depth ->
        Ends limit depth (recurse.bounded step levels x) (answers x depth) fails := by
    intro levels
    induction levels with
    | zero =>
        intro x depth hlevels
        exact absurd hlevels (Nat.not_lt_zero _)
    | succ levels ih =>
        intro x depth hlevels
        apply hstep
        intro y deeper hdeeper hlimit
        apply ih
        omega
  intro state
  rw [runFrom_recurse]
  exact hbounded (limit - depth + 1) input depth (Nat.lt_succ_self _) hinput state

theorem of_answer_ok {lookup : Lookup α} {nesting : Nesting} {answers : α -> Prop}
    {fails : TreeError -> Prop} (hends : Ends nesting.limit nesting.depth lookup answers fails)
    {answer : α} (hanswer : lookup.answer nesting = .ok answer) : answers answer := by
  rw [Lookup.answer] at hanswer
  rcases hends () with ⟨found, after, hrun, hfound⟩ | ⟨error, after, hrun, _⟩
  · rw [hrun] at hanswer
    cases hanswer
    exact hfound
  · rw [hrun] at hanswer
    cases hanswer

end Ends

theorem forall_mem_of_forall₂ {holds : β -> Prop} {xs : List α} {ys : List β}
    (hall : List.Forall₂ (fun _ y => holds y) xs ys) : forall y : β, y ∈ ys -> holds y := by
  induction hall with
  | nil => exact List.forall_mem_nil holds
  | cons hy _ ih => exact List.forall_mem_cons.mpr ⟨hy, ih⟩

/-!
# Rules for transformations

In what follows `transform` is the recursion of a transformation, and its calls one level
deeper end as stated.
-/

variable [OfTreeError ε] {transform : Transformer σ ε} {scope : Scope}

theorem ends_expectEntry {node : Node} {answers : RangeTblEntry -> Prop}
    {operation : TreeError.Operation}
    (hentry : forall entry : RangeTblEntry, node = .rangeTblEntry entry -> answers entry)
    (hother : node.tag ≠ .rangeTblEntry ->
      fails (OfTreeError.ofTreeError (.unrecognizedNode node.tag operation))) :
    Ends limit depth (expectEntry operation node : Traversal σ ε RangeTblEntry) answers fails := by
  by_cases htag : node.tag = .rangeTblEntry
  · cases node with
    | rangeTblEntry entry => exact ends_pure (hentry entry rfl)
    | _ => cases htag
  · rw [expectEntry_of_tag_ne htag]
    exact ends_raise (hother htag)

theorem ends_transformBelow_of_plain {node : Node} {post : Node -> Node -> Prop}
    (hplain : node.Plain)
    (hcut : limit <= depth ->
      fails (OfTreeError.ofTreeError (.stackDepthExceeded (depth + 1) limit)))
    (hchildren : depth < limit -> forall child : Node, child ∈ node.children ->
      Ends limit (depth + 1) (transform child) (post child) fails) :
    Ends limit depth (transformBelow transform scope node)
      (fun answer => depth < limit ∧ exists children : List Node,
        List.Forall₂ post node.children children ∧ answer = node.rebuild children) fails := by
  rw [transformBelow_of_plain hplain]
  apply Ends.guarded hcut
  intro hlimit
  apply Ends.map (Ends.mapM (hchildren hlimit))
  intro children hpost
  exact ⟨hlimit, children, hpost, rfl⟩

/-- The contents that are transformed are those of what the entry became. -/
theorem ends_transformEntry {node : Node} {became : Node -> Prop} {post : Node -> Node -> Prop}
    (hcut : limit <= depth ->
      fails (OfTreeError.ofTreeError (.stackDepthExceeded (depth + 1) limit)))
    (hself : depth < limit ->
      Ends limit (depth + 1) (if scope.showEntries then transform node else pure node) became
        fails)
    (hother : forall answer : Node, became answer -> answer.tag ≠ .rangeTblEntry ->
      fails (OfTreeError.ofTreeError (.unrecognizedNode answer.tag .transformRangeTable)))
    (hcontents : depth < limit ->
      forall (entry : RangeTblEntry) (child : Node), became (.rangeTblEntry entry) ->
        child ∈ entry.contents scope ->
          Ends limit (depth + 1) (transform child) (post child) fails) :
    Ends limit depth (transformEntry transform scope node)
      (fun answer => depth < limit ∧ exists (entry : RangeTblEntry) (contents : List Node),
        became (.rangeTblEntry entry) ∧ List.Forall₂ post (entry.contents scope) contents ∧
          answer = .rangeTblEntry (entry.withContents scope contents)) fails := by
  rw [transformEntry_eq]
  apply Ends.guarded hcut
  intro hlimit
  apply Ends.bind (hself hlimit)
  intro answer hbecame
  have hexpect : Ends limit (depth + 1)
      (expectEntry .transformRangeTable answer : Traversal σ ε RangeTblEntry)
      (fun entry => became (.rangeTblEntry entry)) fails := by
    apply ends_expectEntry
    · intro entry hentry
      rw [← hentry]
      exact hbecame
    · exact hother answer hbecame
  apply hexpect.bind
  intro entry hentry
  apply Ends.map (Ends.mapM fun child hchild => hcontents hlimit entry child hentry hchild)
  intro contents hpost
  exact ⟨hlimit, entry, contents, hentry, hpost, rfl⟩

/-- What a query becomes when its clauses, the members of its range table and those of its
`WITH` list become what is stated, as far as the scope covers them. -/
structure Query.Becomes (scope : Scope) (post memberPost : Node -> Node -> Prop)
    (q answer : Query) : Prop where
  rebuilt : answer =
    { q.withClauses answer.clauses with rtable := answer.rtable, cteList := answer.cteList }
  clauses : List.Forall₂ post q.clauses answer.clauses
  rtable : scope.skipRangeTable = false -> List.Forall₂ memberPost q.rtable answer.rtable
  kept_rtable : scope.skipRangeTable = true -> answer.rtable = q.rtable
  cteList : scope.skipCtes = false -> List.Forall₂ post q.cteList answer.cteList
  kept_cteList : scope.skipCtes = true -> answer.cteList = q.cteList

/-- A query whose parts become themselves stays as it is. -/
theorem Query.Becomes.eq_self {q answer : Query} (hanswer : q.Becomes scope Eq Eq answer) :
    answer = q := by
  have hclauses : answer.clauses = q.clauses := by
    have hsame := hanswer.clauses
    rw [List.forall₂_eq_eq_eq] at hsame
    exact hsame.symm
  have hrtable : answer.rtable = q.rtable := by
    cases hskip : scope.skipRangeTable with
    | true => exact hanswer.kept_rtable hskip
    | false =>
        have hsame := hanswer.rtable hskip
        rw [List.forall₂_eq_eq_eq] at hsame
        exact hsame.symm
  have hcteList : answer.cteList = q.cteList := by
    cases hskip : scope.skipCtes with
    | true => exact hanswer.kept_cteList hskip
    | false =>
        have hsame := hanswer.cteList hskip
        rw [List.forall₂_eq_eq_eq] at hsame
        exact hsame.symm
  rw [hanswer.rebuilt, hclauses, hrtable, hcteList, withClauses_clauses]
  cases q with
  | mk => rfl

theorem ends_transformQuery {q : Query} {post memberPost : Node -> Node -> Prop}
    (hcut : limit <= depth ->
      fails (OfTreeError.ofTreeError (.stackDepthExceeded (depth + 1) limit)))
    (hclauses : depth < limit -> forall clause : Node, clause ∈ q.clauses ->
      Ends limit (depth + 1) (transform clause) (post clause) fails)
    (hrtable : depth < limit -> scope.skipRangeTable = false ->
      forall member : Node, member ∈ q.rtable ->
        Ends limit (depth + 1) (transformEntry transform scope member) (memberPost member) fails)
    (hctes : depth < limit -> scope.skipCtes = false -> forall cte : Node, cte ∈ q.cteList ->
      Ends limit (depth + 1) (transform cte) (post cte) fails) :
    Ends limit depth (transformQuery transform scope q)
      (fun answer => depth < limit ∧ q.Becomes scope post memberPost answer) fails := by
  have htable : depth < limit ->
      Ends limit (depth + 1)
        (if scope.skipRangeTable then pure q.rtable
          else transformRangeTable transform scope q.rtable)
        (fun rtable =>
          (scope.skipRangeTable = false -> List.Forall₂ memberPost q.rtable rtable) ∧
            (scope.skipRangeTable = true -> rtable = q.rtable)) fails := by
    intro hlimit
    cases hskip : scope.skipRangeTable with
    | true => exact ends_pure ⟨nofun, fun _ => rfl⟩
    | false =>
        apply Ends.mono (Ends.mapM (hrtable hlimit hskip))
        intro rtable hpost
        exact ⟨fun _ => hpost, nofun⟩
  have hcteList : depth < limit ->
      Ends limit (depth + 1)
        (if scope.skipCtes then pure q.cteList else q.cteList.mapM transform)
        (fun cteList =>
          (scope.skipCtes = false -> List.Forall₂ post q.cteList cteList) ∧
            (scope.skipCtes = true -> cteList = q.cteList)) fails := by
    intro hlimit
    cases hskip : scope.skipCtes with
    | true => exact ends_pure ⟨nofun, fun _ => rfl⟩
    | false =>
        apply Ends.mono (Ends.mapM (hctes hlimit hskip))
        intro cteList hpost
        exact ⟨fun _ => hpost, nofun⟩
  rw [transformQuery_eq]
  apply Ends.guarded hcut
  intro hlimit
  apply Ends.bind (Ends.mapM (hclauses hlimit))
  intro clauses hpost
  have hreplaced := fun rtable cteList =>
    Query.clauses_replaced hpost.length_eq.symm rtable cteList
  apply Ends.bind (htable hlimit)
  intro rtable hnewTable
  apply Ends.map (hcteList hlimit)
  intro cteList hnewCtes
  refine ⟨hlimit, ?_, ?_, hnewTable.left, hnewTable.right, hnewCtes.left, hnewCtes.right⟩
  · rw [hreplaced rtable cteList]
  · rw [hreplaced rtable cteList]
    exact hpost

end QueryTree
