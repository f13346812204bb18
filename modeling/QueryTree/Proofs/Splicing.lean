import QueryTree.Node.Build
import QueryTree.Proofs.Lockstep
import QueryTree.Proofs.Replies

/-!
# Transformations splice traces

A transformation whose callback is a plain function asks it about the nodes of the
trace in order.  Where the answer is a replacement, it passes over everything inside
the node, and the trace of the result has the trace of the replacement in that place;
everywhere else the label stays where it was.  Replacements are not looked into.
-/

namespace QueryTree

open Traversal Step

/-!
# Splicing
-/

section

variable (f : Node -> Option Node) (scope : Scope)

/-- How many of the visits after a node are inside it, if it is replaced. -/
def hidden (node : Node) (depth : Nat) : Nat :=
  match f node with
  | none => 0
  | some _ => (node.trace scope depth).length - 1

/-- The visits of a trace that are not strictly inside a node that is replaced, after the
given number of visits that are. -/
def exposed : Nat -> List (Node × Nat) -> List (Node × Nat)
  | _, [] => []
  | inside + 1, _ :: rest => exposed inside rest
  | 0, (node, depth) :: rest => (node, depth) :: exposed (hidden f scope node depth) rest

/-- What labels tell of the nodes of a trace, with their depths. -/
def captions (visits : List (Node × Nat)) : List ((Node.Tag × Option String) × Nat) :=
  visits.map fun (node, depth) => (node.caption, depth)

/-- What comes into the place of a visit: the trace of the replacement if the node has
one, and otherwise the node's own label. -/
def inPlace : Node × Nat -> List ((Node.Tag × Option String) × Nat)
  | (node, depth) =>
      match f node with
      | none => [(node.caption, depth)]
      | some replacement => captions (replacement.trace scope depth)

/-- The part of a trace that a visit stands for: the whole trace of a node that is
replaced, and otherwise the node alone. -/
def segment : Node × Nat -> List (Node × Nat)
  | (node, depth) =>
      match f node with
      | none => [(node, depth)]
      | some _ => node.trace scope depth

theorem exposed_length_append (inside rest : List (Node × Nat)) :
    exposed f scope inside.length (inside ++ rest) = exposed f scope 0 rest := by
  induction inside with
  | nil => rfl
  | cons visit inside ih => exact ih

theorem exposed_segment_append (visit : Node × Nat) (rest : List (Node × Nat)) :
    exposed f scope 0 (segment f scope visit ++ rest) = visit :: exposed f scope 0 rest := by
  rcases visit with ⟨node, depth⟩
  rw [segment]
  cases hnode : f node with
  | none =>
      show (node, depth) :: exposed f scope (hidden f scope node depth) rest = _
      rw [hidden, hnode]
  | some replacement =>
      rcases htrace : node.trace scope depth with _ | ⟨visit, inside⟩
      · rw [Node.trace_eq] at htrace
        cases htrace
      · have hhidden : hidden f scope node depth = inside.length := by
          rw [hidden, hnode, htrace]
          rfl
        rw [Node.trace_eq] at htrace
        cases htrace
        show (node, depth) :: exposed f scope (hidden f scope node depth) (_ ++ rest) = _
        rw [hhidden, exposed_length_append]

/-- A trace that is put together from segments exposes what they stand for. -/
theorem exposed_flatMap_segment (visits : List (Node × Nat)) :
    exposed f scope 0 (visits.flatMap (segment f scope)) = visits := by
  induction visits with
  | nil => rfl
  | cons visit rest ih => rw [List.flatMap_cons, exposed_segment_append, ih]

/-- One list of visits becomes another by what is asked of some of them: they stand for
all of the first, and what comes into their places makes up the second. -/
structure Splices (before after calls : List (Node × Nat)) : Prop where
  before : before = calls.flatMap (segment f scope)
  after : captions after = calls.flatMap (inPlace f scope)

end

variable {f : Node -> Option Node} {scope : Scope}

namespace Splices

theorem nil : Splices f scope [] [] [] where
  before := rfl
  after := rfl

theorem append {before after calls before' after' calls' : List (Node × Nat)}
    (hfirst : Splices f scope before after calls)
    (hsecond : Splices f scope before' after' calls') :
    Splices f scope (before ++ before') (after ++ after') (calls ++ calls') where
  before := by rw [List.flatMap_append, hfirst.before, hsecond.before]
  after := by
    rw [List.flatMap_append, ← hfirst.after, ← hsecond.after]
    exact List.map_append

theorem kept {node answer : Node} (hnode : f node = none) (hcaption : answer.caption = node.caption)
    (depth : Nat) : Splices f scope [(node, depth)] [(answer, depth)] [(node, depth)] where
  before := by rw [List.flatMap_singleton, segment, hnode]
  after := by
    rw [List.flatMap_singleton, inPlace, hnode, ← hcaption]
    rfl

theorem replaced {node replacement : Node} (hnode : f node = some replacement) (depth : Nat) :
    Splices f scope (node.trace scope depth) (replacement.trace scope depth)
      [(node, depth)] where
  before := by rw [List.flatMap_singleton, segment, hnode]
  after := by rw [List.flatMap_singleton, inPlace, hnode]

/-- A query that is kept is spliced part by part. -/
theorem query {q answer : Query} (hquery : f (.query q) = none) {depth : Nat}
    {calls more rest : List (Node × Nat)}
    (hclauses : Splices f scope (q.clauses.flatMap fun clause => clause.trace scope (depth + 1))
      (answer.clauses.flatMap fun clause => clause.trace scope (depth + 1)) calls)
    (hrtable : Splices f scope
      (if scope.skipRangeTable then [] else q.rtable.flatMap
        (entryTrace (fun scope node depth => node.trace scope depth) scope (depth + 2)))
      (if scope.skipRangeTable then [] else answer.rtable.flatMap
        (entryTrace (fun scope node depth => node.trace scope depth) scope (depth + 2))) more)
    (hctes : Splices f scope
      (if scope.skipCtes then [] else q.cteList.flatMap fun cte => cte.trace scope (depth + 1))
      (if scope.skipCtes then []
        else answer.cteList.flatMap fun cte => cte.trace scope (depth + 1)) rest) :
    Splices f scope ((Node.query q).trace scope depth) ((Node.query answer).trace scope depth)
      ((.query q, depth) :: (calls ++ (more ++ rest))) := by
  have hself : Splices f scope [(.query q, depth)] [(.query answer, depth)]
      [(.query q, depth)] := by
    apply kept hquery
    rfl
  rw [Node.trace_query, Node.trace_query]
  exact hself.append (hclauses.append (hrtable.append hctes))

end Splices

/-!
# Noting calls
-/

variable {σ ε α β : Type}

/-- Where a computation succeeds, so does another one that notes its calls.  It gives the
same answer and adds the calls to its notes; both leave the nesting as it was. -/
def Calls (plain : Traversal σ ε α) (noted : Traversal (List (Node × Nat)) ε α)
    (nesting : Nesting) (post : α -> List (Node × Nat) -> Prop) : Prop :=
  forall (state : σ) (answer : α) (after : Nesting × σ),
    runFrom plain nesting state = (.ok answer, after) ->
      after.1 = nesting ∧
        exists calls : List (Node × Nat), post answer calls ∧
          forall log : List (Node × Nat),
            runFrom noted nesting log = (.ok answer, nesting, log ++ calls)

variable {nesting : Nesting}

theorem calls_pure {answer : α} {post : α -> List (Node × Nat) -> Prop} (hpost : post answer []) :
    Calls (pure answer : Traversal σ ε α) (pure answer) nesting post := by
  intro state answer' after hrun
  cases hrun
  refine ⟨rfl, [], hpost, ?_⟩
  intro log
  rw [List.append_nil]
  rfl

namespace Calls

theorem bind {plain : Traversal σ ε α} {noted : Traversal (List (Node × Nat)) ε α}
    {next : α -> Traversal σ ε β} {notedNext : α -> Traversal (List (Node × Nat)) ε β}
    {first : α -> List (Node × Nat) -> Prop} {post : β -> List (Node × Nat) -> Prop}
    (hfirst : Calls plain noted nesting first)
    (hnext : forall (x : α) (calls : List (Node × Nat)), first x calls ->
      Calls (next x) (notedNext x) nesting fun answer more => post answer (calls ++ more)) :
    Calls (plain >>= next) (noted >>= notedNext) nesting post := by
  intro state answer after hrun
  rw [runFrom_bind] at hrun
  rcases hplain : runFrom plain nesting state with ⟨result, middle, during⟩
  rw [hplain] at hrun
  cases result with
  | error error => cases hrun
  | ok x =>
      rcases hfirst state x (middle, during) hplain with ⟨hmiddle, calls, hcalls, hnoted⟩
      simp only at hmiddle
      rw [hmiddle] at hrun
      rcases hnext x calls hcalls during answer after hrun with ⟨hafter, more, hpost, hrest⟩
      refine ⟨hafter, calls ++ more, hpost, ?_⟩
      intro log
      rw [runFrom_bind, hnoted log, ← List.append_assoc]
      exact hrest (log ++ calls)

theorem mono {plain : Traversal σ ε α} {noted : Traversal (List (Node × Nat)) ε α}
    {post weaker : α -> List (Node × Nat) -> Prop} (hcalls : Calls plain noted nesting post)
    (hweaker : forall (x : α) (calls : List (Node × Nat)), post x calls -> weaker x calls) :
    Calls plain noted nesting weaker := by
  intro state answer after hrun
  rcases hcalls state answer after hrun with ⟨hafter, calls, hpost, hnoted⟩
  exact ⟨hafter, calls, hweaker answer calls hpost, hnoted⟩

theorem map {plain : Traversal σ ε α} {noted : Traversal (List (Node × Nat)) ε α} {g : α -> β}
    {post : β -> List (Node × Nat) -> Prop}
    (hcalls : Calls plain noted nesting fun x calls => post (g x) calls) :
    Calls (plain >>= fun x => pure (g x)) (noted >>= fun x => pure (g x)) nesting post := by
  apply Calls.bind hcalls
  intro x calls hpost
  apply calls_pure
  rw [List.append_nil]
  exact hpost

theorem guarded [OfTreeError ε] {plain : Traversal σ ε α}
    {noted : Traversal (List (Node × Nat)) ε α} {post : α -> List (Node × Nat) -> Prop}
    (hcalls : Calls plain noted { nesting with depth := nesting.depth + 1 } post) :
    Calls (guarded plain) (guarded noted) nesting post := by
  intro state answer after hrun
  rw [runFrom_guarded, Nesting.enter?] at hrun
  by_cases hlimit : nesting.depth + 1 <= nesting.limit
  · simp only [if_pos hlimit] at hrun
    rcases hplain : runFrom plain { nesting with depth := nesting.depth + 1 } state with
      ⟨result, middle, during⟩
    rw [hplain] at hrun
    cases hrun
    rcases hcalls state answer (middle, during) hplain with ⟨hmiddle, calls, hpost, hnoted⟩
    simp only at hmiddle
    refine ⟨by rw [hmiddle]; rfl, calls, hpost, ?_⟩
    intro log
    rw [runFrom_guarded, Nesting.enter?]
    simp only [if_pos hlimit, hnoted log]
    rfl
  · simp only [if_neg hlimit] at hrun
    cases hrun

/-- Members that are spliced one by one are spliced as a list, which keeps its length. -/
theorem mapM {transform : α -> Traversal σ ε β}
    {noted : α -> Traversal (List (Node × Nat)) ε β} {before : α -> List (Node × Nat)}
    {after : β -> List (Node × Nat)} {xs : List α}
    (heach : forall x : α, x ∈ xs -> Calls (transform x) (noted x) nesting fun y calls =>
      Splices f scope (before x) (after y) calls) :
    Calls (xs.mapM transform) (xs.mapM noted) nesting fun ys calls =>
      ys.length = xs.length ∧
        Splices f scope (xs.flatMap before) (ys.flatMap after) calls := by
  induction xs with
  | nil => exact calls_pure ⟨rfl, Splices.nil⟩
  | cons x rest ih =>
      rw [List.mapM_cons, List.mapM_cons]
      apply Calls.bind (heach x List.mem_cons_self)
      intro y calls hy
      apply Calls.map
      apply Calls.mono (ih fun z hz => heach z (List.mem_cons_of_mem x hz))
      rintro ys more ⟨hlength, hys⟩
      refine ⟨by rw [List.length_cons, List.length_cons, hlength], ?_⟩
      rw [List.flatMap_cons, List.flatMap_cons]
      exact hy.append hys

/-- Steps that keep recursions spliced make recursions that are. -/
theorem recurse [OfTreeError ε] {step : (α -> Traversal σ ε β) -> α -> Traversal σ ε β}
    {notedStep : (α -> Traversal (List (Node × Nat)) ε β) -> α ->
      Traversal (List (Node × Nat)) ε β}
    (post : α -> Nesting -> β -> List (Node × Nat) -> Prop)
    (hstep : forall (transform : α -> Traversal σ ε β)
      (noted : α -> Traversal (List (Node × Nat)) ε β),
      (forall (x : α) (nesting : Nesting),
        Calls (transform x) (noted x) nesting (post x nesting)) ->
      forall (x : α) (nesting : Nesting),
        Calls (step transform x) (notedStep noted x) nesting (post x nesting))
    (input : α) (nesting : Nesting) :
    Calls (Traversal.recurse step input) (Traversal.recurse notedStep input) nesting
      (post input nesting) := by
  have hbounded : forall (levels : Nat) (x : α) (nesting : Nesting),
      Calls (recurse.bounded step levels x) (recurse.bounded notedStep levels x) nesting
        (post x nesting) := by
    intro levels
    induction levels with
    | zero =>
        intro x nesting state answer after hrun
        cases hrun
    | succ levels ih =>
        exact hstep (recurse.bounded step levels) (recurse.bounded notedStep levels) ih
  intro state answer after hrun
  rw [runFrom_recurse] at hrun
  rcases hbounded _ input nesting state answer after hrun with ⟨hafter, calls, hpost, hnoted⟩
  refine ⟨hafter, calls, hpost, ?_⟩
  intro log
  rw [runFrom_recurse]
  exact hnoted log

end Calls

/-!
# Trees

In what follows `transform` and `noted` are the recursions of a transformation and of
the one that notes its calls, in a scope that does not show entries.
-/

/-- What one member of a range table adds to a trace, if entries are not shown. -/
theorem entryTrace_of_hidden (hshow : scope.showEntries = false) (entry : RangeTblEntry)
    (depth : Nat) :
    entryTrace (fun scope node depth => node.trace scope depth) scope depth
        (.rangeTblEntry entry) =
      (entry.contents scope).flatMap fun node => node.trace scope depth := by
  rw [entryTrace, hshow]
  rfl

section

variable [OfTreeError ε] {transform : Transformer σ ε}
  {noted : Transformer (List (Node × Nat)) ε}
  (htransform : forall (node : Node) (nesting : Nesting),
    Calls (transform node) (noted node) nesting fun answer calls =>
      Splices f scope (node.trace scope nesting.depth) (answer.trace scope nesting.depth) calls)

include htransform

omit [OfTreeError ε] in
theorem calls_mapM (nodes : List Node) (nesting : Nesting) :
    Calls (nodes.mapM transform) (nodes.mapM noted) nesting fun answers calls =>
      answers.length = nodes.length ∧
        Splices f scope (nodes.flatMap fun node => node.trace scope nesting.depth)
          (answers.flatMap fun node => node.trace scope nesting.depth) calls := by
  apply Calls.mapM
  intro node _hnode
  exact htransform node nesting

theorem calls_transformEntry (hshow : scope.showEntries = false) (member : Node)
    (nesting : Nesting) :
    Calls (transformEntry transform scope member) (transformEntry noted scope member) nesting
      fun answer calls =>
        Splices f scope
          (entryTrace (fun scope node depth => node.trace scope depth) scope (nesting.depth + 1)
            member)
          (entryTrace (fun scope node depth => node.trace scope depth) scope (nesting.depth + 1)
            answer) calls := by
  rw [transformEntry_eq, transformEntry_eq, hshow]
  apply Calls.guarded
  simp only [Bool.false_eq_true, if_false, pure_bind]
  by_cases hentry : member.tag = .rangeTblEntry
  · cases member with
    | rangeTblEntry entry =>
        apply Calls.map
        apply Calls.mono (calls_mapM htransform (entry.contents scope) _)
        rintro contents calls ⟨hlength, hsplices⟩
        rw [entryTrace_of_hidden hshow, entryTrace_of_hidden hshow,
          RangeTblEntry.contents_withContents hlength]
        exact hsplices
    | _ => cases hentry
  · rw [expectEntry_of_tag_ne hentry, expectEntry_of_tag_ne hentry]
    intro state answer after hrun
    cases hrun

theorem calls_transformQuery (hshow : scope.showEntries = false) {q : Query}
    (hquery : f (.query q) = none) (nesting : Nesting) :
    Calls (transformQuery transform scope q) (transformQuery noted scope q) nesting
      fun answer calls =>
        Splices f scope ((Node.query q).trace scope nesting.depth)
          ((Node.query answer).trace scope nesting.depth)
          ((.query q, nesting.depth) :: calls) := by
  have hrtable : Calls
      (if scope.skipRangeTable then pure q.rtable
        else transformRangeTable transform scope q.rtable)
      (if scope.skipRangeTable then pure q.rtable else transformRangeTable noted scope q.rtable)
      { nesting with depth := nesting.depth + 1 } fun rtable calls =>
        Splices f scope
          (if scope.skipRangeTable then [] else q.rtable.flatMap
            (entryTrace (fun scope node depth => node.trace scope depth) scope
              (nesting.depth + 2)))
          (if scope.skipRangeTable then [] else rtable.flatMap
            (entryTrace (fun scope node depth => node.trace scope depth) scope
              (nesting.depth + 2))) calls := by
    split
    · exact calls_pure Splices.nil
    · have hmembers := Calls.mapM fun member (_ : member ∈ q.rtable) =>
        calls_transformEntry htransform hshow member { nesting with depth := nesting.depth + 1 }
      apply Calls.mono hmembers
      intro rtable calls hsplices
      exact hsplices.right
  have hctes : Calls
      (if scope.skipCtes then pure q.cteList else q.cteList.mapM transform)
      (if scope.skipCtes then pure q.cteList else q.cteList.mapM noted)
      { nesting with depth := nesting.depth + 1 } fun cteList calls =>
        Splices f scope
          (if scope.skipCtes then []
            else q.cteList.flatMap fun cte => cte.trace scope (nesting.depth + 1))
          (if scope.skipCtes then []
            else cteList.flatMap fun cte => cte.trace scope (nesting.depth + 1)) calls := by
    split
    · exact calls_pure Splices.nil
    · apply Calls.mono (calls_mapM htransform q.cteList _)
      intro cteList calls hsplices
      exact hsplices.right
  rw [transformQuery_eq, transformQuery_eq]
  apply Calls.guarded
  apply Calls.bind (calls_mapM htransform q.clauses _)
  rintro clauses calls ⟨hlength, hclauses⟩
  apply Calls.bind hrtable
  intro rtable more hrtable
  apply Calls.map
  apply Calls.mono hctes
  intro cteList rest hctes
  rw [← Query.clauses_replaced hlength rtable cteList] at hclauses
  exact Splices.query hquery hclauses hrtable hctes

theorem calls_transformBelow (hshow : scope.showEntries = false) {node : Node}
    (hnode : f node = none) (nesting : Nesting) :
    Calls (transformBelow transform scope node) (transformBelow noted scope node) nesting
      fun answer calls =>
        Splices f scope (node.trace scope nesting.depth) (answer.trace scope nesting.depth)
          ((node, nesting.depth) :: calls) := by
  induction node using Node.byParts with
  | query q =>
      apply Calls.map
      exact calls_transformQuery htransform hshow hnode nesting
  | entry entry =>
      apply calls_pure
      rw [Node.inPreorder_trace.entry]
      exact Splices.kept hnode rfl nesting.depth
  | plain node hplain =>
      rw [transformBelow_of_plain hplain, transformBelow_of_plain hplain]
      apply Calls.guarded
      apply Calls.map
      apply Calls.mono (calls_mapM htransform node.children _)
      rintro children calls ⟨hlength, hchildren⟩
      have hcaption := node.caption_rebuild children
      have hrebuilt : (node.rebuild children).Plain := by
        rw [Node.Plain, show (node.rebuild children).tag = node.tag from congrArg Prod.fst hcaption]
        exact hplain
      rw [Node.trace_of_plain hplain, Node.trace_of_plain hrebuilt,
        Node.children_rebuild hlength]
      exact (Splices.kept hnode hcaption nesting.depth).append hchildren

end

/-- The transformation of a plain function splices the trace of the tree, by the calls that
are noted. -/
theorem calls_transformTree [OfTreeError ε] (hshow : scope.showEntries = false) (node : Node)
    (nesting : Nesting) :
    Calls (transformTree (fun node => pure (f node) : Node -> Traversal σ ε _) scope node)
      (transformTree (Reply.noted f).run scope node) nesting fun answer calls =>
        Splices f scope (node.trace scope nesting.depth) (answer.trace scope nesting.depth)
          calls := by
  rw [transformTree, transformTree]
  apply Calls.recurse (fun (node : Node) (nesting : Nesting) (answer : Node) calls =>
    Splices f scope (node.trace scope nesting.depth) (answer.trace scope nesting.depth) calls)
  intro transform noted htransform node nesting
  have hask : Calls (pure (f node) : Traversal σ ε _) ((Reply.noted f).run node) nesting
      fun answer calls => answer = f node ∧ calls = [(node, nesting.depth)] := by
    intro state answer after hrun
    cases hrun
    exact ⟨rfl, _, ⟨rfl, rfl⟩, fun log => rfl⟩
  apply Calls.bind hask
  rintro answer calls ⟨hanswer, rfl⟩
  cases answer with
  | some replacement => exact calls_pure (Splices.replaced hanswer.symm nesting.depth)
  | none => exact calls_transformBelow htransform hshow hanswer.symm nesting

/-- Where the transformation of a plain function succeeds in a scope that does not show
entries, the function was called on the nodes of the trace that are not strictly inside a
replaced one, and on nothing else.  The labels of the result are those of the tree, with
the labels of each replacement in the place of all that was inside the node that it
replaces.  A trace is what a walk shows that succeeds. -/
theorem transformTree_splices_trace [OfTreeError ε] (f : Node -> Option Node) (scope : Scope)
    (hshow : scope.showEntries = false) {tree result : Node} {nesting : Nesting} {state : σ}
    {after : Nesting × σ}
    (hrun : runFrom (transformTree (fun node => pure (f node) : Node -> Traversal σ ε _) scope
      tree) nesting state = (.ok result, after)) :
    runFrom (transformTree (Reply.noted f : Reply _ _ ε _).run scope tree) nesting [] =
        (.ok result, nesting, exposed f scope 0 (tree.trace scope nesting.depth)) ∧
      captions (result.trace scope nesting.depth) =
        (exposed f scope 0 (tree.trace scope nesting.depth)).flatMap (inPlace f scope) ∧
      forall (node : Node) (nesting after : Nesting) (control : Control)
        (shown : List (Node × Nat)),
        runFrom (walkTree (Reply.chart : Reply _ _ ε _).run scope node) nesting [] =
            (.ok control, after, shown) ->
          shown = node.trace scope nesting.depth := by
  rcases calls_transformTree hshow tree nesting state result after hrun with
    ⟨_hafter, calls, hsplices, hnoted⟩
  have hcalls : exposed f scope 0 (tree.trace scope nesting.depth) = calls := by
    rw [hsplices.before, exposed_flatMap_segment]
  rw [hcalls]
  refine ⟨hnoted [], hsplices.after, ?_⟩
  intro node nesting after control shown hwalk
  rcases runFrom_walkTree_chart.mp hwalk with ⟨_, _, _, hshown⟩
  exact hshown

/-- Put a list of one constant in the place of every query. -/
def queryToList : Node -> Option Node
  | .query _ => some (.list [.ofInt4 1])
  | _ => none

/-- The subquery of `nestedSelect` goes with the query around it and is not asked about, and
neither is the constant that comes into their place; the one beside them is. -/
theorem transformTree_splices_trace_nestedSelect :
    runFrom (transformTree (fun node => pure (queryToList node) : Node -> Lookup _) .everything
        (.list [.nestedSelect, .ofInt4 2])) (.start 2) () =
      (.ok (.list [.list [.ofInt4 1], .ofInt4 2]), .start 2, ()) ∧
    exposed queryToList .everything 0
        ((Node.list [.nestedSelect, .ofInt4 2]).trace .everything 0) =
      [(.list [.nestedSelect, .ofInt4 2], 0), (.nestedSelect, 1), (.ofInt4 2, 1)] ∧
    captions ((Node.list [.list [.ofInt4 1], .ofInt4 2]).trace .everything 0) =
      ((.list, none), 0) :: captions ((Node.list [.ofInt4 1]).trace .everything 1) ++
        [((.const, some "2"), 1)] := by
  have hrun : runFrom (transformTree (fun node => pure (queryToList node) : Node -> Lookup _)
      .everything (.list [.nestedSelect, .ofInt4 2])) (.start 2) () =
      (.ok (.list [.list [.ofInt4 1], .ofInt4 2]), .start 2, ()) :=
    rfl
  have hnoted : runFrom (transformTree (Reply.noted queryToList : Reply _ _ TreeError _).run
      .everything (.list [.nestedSelect, .ofInt4 2])) (.start 2) [] =
      (.ok (.list [.list [.ofInt4 1], .ofInt4 2]), .start 2,
        [(.list [.nestedSelect, .ofInt4 2], 0), (.nestedSelect, 1), (.ofInt4 2, 1)]) :=
    rfl
  rcases transformTree_splices_trace queryToList .everything rfl hrun with
    ⟨hcalls, hcaptions, _⟩
  rw [hnoted] at hcalls
  have hexposed := (congrArg (fun run => run.2.2) hcalls).symm
  simp only at hexposed
  rw [hexposed] at hcaptions
  exact ⟨hrun, hexposed, hcaptions⟩

end QueryTree
