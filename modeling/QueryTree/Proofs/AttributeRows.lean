import Mathlib.Data.List.Forall2
import QueryTree.Command.Report
import QueryTree.Node.Build
import QueryTree.Proofs.Answers

/-!
# Rows and counts agree

The attributes of a tree are collected by a visitor that looks them up in the middle of
its own walk, and the kinds of a tree are counted by a walk that only writes them down.
Both take the steps of one itinerary.  A row is therefore made for each expression that
the walk shows, in that order, and it holds what the lookups answer there.  They answer
the same from every start that is less deep.
-/

namespace QueryTree

open Traversal Step Lookup

variable {α : Type}

/-!
# Answers above a depth
-/

/-- From every start down to a depth, the lookup gives the answer. -/
def Lookup.AnswersAbove (lookup : Lookup α) (limit depth : Nat) (answer : α) : Prop :=
  forall start : Nat, start <= depth ->
    lookup.answer { depth := start, limit } = .ok answer

/-- What a lookup answers somewhere is what it answers everywhere above. -/
theorem answersAbove_of_answer_ok {lookup : Lookup α} {limit depth : Nat} {answer : α}
    (hrises : forall levels start : Nat, Rises levels limit α start lookup lookup)
    (hdepth : depth <= limit) (hanswer : lookup.answer { depth, limit } = .ok answer) :
    lookup.AnswersAbove limit depth answer := by
  intro start hstart
  rw [← answer_of_staysWithin (fun levels => hrises levels start) hstart hdepth
    (staysWithin_of_answer_ok hanswer)]
  exact hanswer

/-!
# One row
-/

/-- The row is what the lookups say of a node that is shown at a depth. -/
structure AttributeRow.Describes (catalog : Catalog) (limit : Nat) (visit : Node × Nat)
    (row : AttributeRow) : Prop where
  kind : row.kind = visit.1.tag
  typeOid : (visit.1.exprType catalog).AnswersAbove limit visit.2 row.typeOid
  typeName : row.typeName = catalog.typeName row.typeOid
  typmod : (visit.1.exprTypmod catalog).AnswersAbove limit visit.2 row.typmod
  collation : visit.1.exprCollation.AnswersAbove limit visit.2 row.collation
  inputCollation : row.inputCollation = visit.1.inputCollation
  location : visit.1.exprLocation.AnswersAbove limit visit.2 row.location

theorem describes_of_answer_ok {catalog : Catalog} {node : Node} {depth limit : Nat}
    {row : AttributeRow}
    (hanswer : (AttributeRow.ofNode catalog node).answer { depth, limit } = .ok row) :
    row.Describes catalog limit (node, depth) := by
  rcases (answer_bind_eq_ok (node.balanced_exprType catalog)).mp hanswer with
    ⟨typeOid, htype, hanswer⟩
  rcases (answer_bind_eq_ok (node.balanced_exprTypmod catalog)).mp hanswer with
    ⟨typmod, htypmod, hanswer⟩
  rcases (answer_bind_eq_ok node.balanced_exprCollation).mp hanswer with
    ⟨collation, hcollation, hanswer⟩
  rcases (answer_bind_eq_ok node.balanced_exprLocation).mp hanswer with
    ⟨location, hlocation, hrow⟩
  cases hrow
  have hdepth : depth <= limit := Nat.le_of_lt (depth_lt_of_answer_ok htype)
  constructor
  case kind | typeName | inputCollation => rfl
  case typeOid =>
    exact answersAbove_of_answer_ok
      (fun levels => (congruence_rises levels limit).exprType catalog node) hdepth htype
  case typmod =>
    exact answersAbove_of_answer_ok
      (fun levels => (congruence_rises levels limit).exprTypmod catalog node) hdepth htypmod
  case collation =>
    exact answersAbove_of_answer_ok
      (fun levels => (congruence_rises levels limit).exprCollation node) hdepth hcollation
  case location =>
    exact answersAbove_of_answer_ok
      (fun levels => (congruence_rises levels limit).exprLocation node) hdepth hlocation

theorem balanced_rowOfNode (catalog : Catalog) (node : Node) :
    (AttributeRow.ofNode catalog node).Balanced := by
  apply (node.balanced_exprType catalog).bind
  intro typeOid
  apply (node.balanced_exprTypmod catalog).bind
  intro typmod
  apply node.balanced_exprCollation.bind
  intro collation
  apply node.balanced_exprLocation.bind
  intro location nesting state
  rfl

/-!
# The rows of a walk
-/

/-- Add the row of an expression. -/
def noteRow (catalog : Catalog) : Visitor (List AttributeRow) TreeError := fun node => do
  if node.isExpr then
    let row ← ofLookup (AttributeRow.ofNode catalog node)
    modifyState (row :: ·)
  return .proceed

theorem noteRow_of_not_isExpr {node : Node} (hexpr : node.isExpr = false) (catalog : Catalog) :
    noteRow catalog node = pure .proceed := by
  rw [noteRow, hexpr]
  rfl

theorem runFrom_noteRow_of_isExpr {node : Node} (hexpr : node.isExpr = true) (catalog : Catalog)
    (nesting : Nesting) (rows : List AttributeRow) :
    runFrom (noteRow catalog node) nesting rows =
      match (AttributeRow.ofNode catalog node).answer nesting with
      | .ok row => (.ok .proceed, nesting, row :: rows)
      | .error error => (.error error, nesting, rows) := by
  rw [noteRow, if_pos hexpr, runFrom_bind,
    runFrom_ofLookup_eq_answer (balanced_rowOfNode catalog node)]
  cases (AttributeRow.ofNode catalog node).answer nesting with
  | ok row => rfl
  | error error => rfl

theorem balanced_noteRow (catalog : Catalog) (node : Node) : (noteRow catalog node).Balanced := by
  intro nesting rows
  cases hexpr : node.isExpr with
  | false =>
      rw [noteRow_of_not_isExpr hexpr]
      rfl
  | true =>
      rw [runFrom_noteRow_of_isExpr hexpr]
      split
      · rfl
      · rfl

theorem collectRow_eq_walkTree (catalog : Catalog) (scope : Scope) :
    collectRow catalog scope = walkTree (noteRow catalog) scope := by
  have hstep (visit : Visitor (List AttributeRow) TreeError) (node : Node) :
      (do
        if node.isExpr then
          let row ← ofLookup (AttributeRow.ofNode catalog node)
          modifyState (row :: ·)
        walkBelow visit scope node) =
      andThen (noteRow catalog node) (walkBelow visit scope node) := by
    rw [andThen, noteRow]
    split
    · simp only [bind_assoc, pure_bind]
    · simp only [pure_bind]
  funext node
  simp only [collectRow, walkTree, hstep]

/-- The visitor is not shown a query that it starts with, and would not make a row for it. -/
theorem runFrom_collect (catalog : Catalog) (scope : Scope) (tree : Node) (nesting : Nesting)
    (rows : List AttributeRow) :
    runFrom (walkQueryOrExpr (collectRow catalog scope) scope tree) nesting rows =
      endAt nesting
        (replay (noteRow catalog) nesting.limit (tree.itinerary scope nesting.depth) rows) := by
  have hfollows : Follows (noteRow catalog) (Node.itinerary scope) nesting
      (walkTree (noteRow catalog) scope) := by
    intro node deeper _hdeeper
    exact performs_walkTree (balanced_noteRow catalog) scope node deeper
  rw [collectRow_eq_walkTree]
  cases tree with
  | query q =>
      rw [Node.itinerary_eq, replay, noteRow_of_not_isExpr rfl]
      exact performs_walkQuery hfollows q rows
  | _ => exact performs_walkTree (balanced_noteRow catalog) scope _ nesting rows

theorem replay_noteRow {catalog : Catalog} {limit : Nat} {steps : List (Step Node)}
    {rows final : List AttributeRow} {control : Control}
    (hreplay : replay (noteRow catalog) limit steps rows = (.ok control, final)) :
    (forall step : Step Node, step ∈ steps -> step.Passes limit) ∧
      exists new : List AttributeRow, final = new.reverse ++ rows ∧
        List.Forall₂ (AttributeRow.Describes catalog limit)
          ((shown steps).filter fun visit => visit.1.isExpr) new := by
  induction steps generalizing rows with
  | nil =>
      cases hreplay
      exact ⟨nofun, [], rfl, .nil⟩
  | cons step rest ih =>
      rw [List.forall_mem_cons]
      cases step with
      | enter depth =>
          rw [replay] at hreplay
          split at hreplay
          · rename_i hdepth
            rcases ih hreplay with ⟨hpasses, hnew⟩
            exact ⟨⟨hdepth, hpasses⟩, hnew⟩
          · cases hreplay
      | visit node depth =>
          rw [replay] at hreplay
          cases hexpr : node.isExpr with
          | false =>
              rw [noteRow_of_not_isExpr hexpr] at hreplay
              rcases ih hreplay with ⟨hpasses, hnew⟩
              refine ⟨⟨trivial, hpasses⟩, ?_⟩
              simp only [shown_visit, List.filter_cons, hexpr]
              exact hnew
          | true =>
              rw [runFrom_noteRow_of_isExpr hexpr] at hreplay
              cases hanswer : (AttributeRow.ofNode catalog node).answer { depth, limit } with
              | error error =>
                  rw [hanswer] at hreplay
                  cases hreplay
              | ok row =>
                  rw [hanswer] at hreplay
                  rcases ih hreplay with ⟨hpasses, new, hfinal, hnew⟩
                  refine ⟨⟨trivial, hpasses⟩, row :: new, ?_, ?_⟩
                  · rw [hfinal, List.reverse_cons, List.append_assoc]
                    rfl
                  · simp only [shown_visit, List.filter_cons, hexpr]
                    exact .cons (describes_of_answer_ok hanswer) hnew
      | refuse error => cases hreplay

/-!
# The counts of a walk
-/

theorem countKinds_of_passes {scope : Scope} {nesting : Nesting} {tree : Node}
    (hpasses : forall step : Step Node, step ∈ tree.itinerary scope nesting.depth ->
      step.Passes nesting.limit) :
    countKinds scope nesting tree =
      .ok (tally ((tree.trace scope nesting.depth).map fun visit => visit.1.tag).reverse) := by
  have hnotes : Notes (fun seen visit => visit.1.tag :: seen)
      (fun node => do
        modifyState (node.tag :: ·)
        return .proceed : Visitor (List Node.Tag) TreeError) :=
    fun _ _ _ => rfl
  rw [countKinds, seenTags, runFrom_bind, hnotes.runFrom_walkTree.mpr ⟨hpasses, rfl, rfl⟩,
    List.foldl_flip_cons_eq_append, List.append_nil]
  rfl

section

variable {κ : Type} [DecidableEq κ] [Named κ]

theorem mem_tally {seen : List κ} {key : κ} {count : Nat} :
    (key, count) ∈ tally seen <->
      key ∈ (Named.members : List κ) ∧ count = seen.count key ∧ count ≠ 0 := by
  simp only [tally, List.mem_filter, List.mem_map, Prod.mk.injEq, bne_iff_ne]
  constructor
  · rintro ⟨⟨member, hmember, rfl, rfl⟩, hcount⟩
    exact ⟨hmember, rfl, hcount⟩
  · rintro ⟨hmember, rfl, hcount⟩
    exact ⟨⟨key, hmember, rfl, rfl⟩, hcount⟩

/-- A kind that is not listed was not seen. -/
theorem lookup_tally (seen : List κ) {key : κ} (hkey : key ∈ (Named.members : List κ)) :
    ((tally seen).lookup key).getD 0 = seen.count key := by
  cases hlookup : (tally seen).lookup key with
  | some count =>
      rcases List.lookup_eq_some_iff.mp hlookup with ⟨before, after, hsplit, _⟩
      have hmem : (key, count) ∈ tally seen := by
        rw [hsplit]
        exact List.mem_append_right before List.mem_cons_self
      exact (mem_tally.mp hmem).right.left
  | none =>
      by_contra hcount
      have hmem : (key, seen.count key) ∈ tally seen :=
        mem_tally.mpr ⟨hkey, rfl, fun hzero => hcount hzero.symm⟩
      have hother := List.lookup_eq_none_iff.mp hlookup _ hmem
      simp at hother

end

theorem Node.Tag.mem_members (tag : Node.Tag) : tag ∈ (Named.members : List Node.Tag) := by
  cases tag <;> decide

/-!
# Agreement
-/

theorem map_kind_of_describes {catalog : Catalog} {limit : Nat} {visits : List (Node × Nat)}
    {rows : List AttributeRow}
    (hrows : List.Forall₂ (AttributeRow.Describes catalog limit)
      (visits.filter fun visit => visit.1.isExpr) rows) :
    rows.map AttributeRow.kind = (visits.map fun visit => visit.1.tag).filter Node.Tag.isExpr := by
  rw [List.filter_map, ← List.forall₂_eq_eq_eq, List.forall₂_map_left_iff,
    List.forall₂_map_right_iff]
  exact hrows.flip.imp fun row visit hdescribes => hdescribes.kind

/-- Where the attributes of a tree are found, its kinds can be counted.  There is a row for each
expression that a walk over the tree shows, in that order, with the answers of the lookups
on it, and as many rows of a kind of expression as its count says. -/
theorem collectAttributes_agrees_with_countKinds {catalog : Catalog} {scope : Scope}
    {nesting : Nesting} {tree : Node} {rows : List AttributeRow}
    (hrows : collectAttributes catalog scope nesting tree = .ok rows) :
    exists (visits : List (Node × Nat)) (counts : List (Node.Tag × Nat)),
      runFrom (walkTree (Reply.chart : Reply _ _ TreeError _).run scope tree) nesting [] =
        (.ok .proceed, nesting, visits) ∧
      countKinds scope nesting tree = .ok counts ∧
      rows.map AttributeRow.kind =
        (visits.map fun visit => visit.1.tag).filter Node.Tag.isExpr ∧
      List.Forall₂ (AttributeRow.Describes catalog nesting.limit)
        (visits.filter fun visit => visit.1.isExpr) rows ∧
      forall tag : Node.Tag, tag.isExpr = true ->
        (rows.map AttributeRow.kind).count tag = (counts.lookup tag).getD 0 := by
  rw [collectAttributes, runFrom_collect] at hrows
  rcases hreplay : replay (noteRow catalog) nesting.limit (tree.itinerary scope nesting.depth) []
    with ⟨outcome, final⟩
  rw [hreplay] at hrows
  cases outcome with
  | error error => cases hrows
  | ok control =>
      cases hrows
      rcases replay_noteRow hreplay with ⟨hpasses, new, rfl, hnew⟩
      rw [List.append_nil, List.reverse_reverse]
      have hkinds := map_kind_of_describes hnew
      refine ⟨_, _, runFrom_walkTree_chart.mpr ⟨hpasses, rfl, rfl, rfl⟩,
        countKinds_of_passes hpasses, hkinds, hnew, ?_⟩
      intro tag hexpr
      rw [hkinds, lookup_tally _ tag.mem_members, List.count_reverse, List.count_filter hexpr]
      rfl

/-- One more than the only column of a subquery, which is a constant. -/
def Node.plusOne : Node :=
  .query {
    Query.bare with
    rtable := [.rangeTblEntry {
      kind := .subquery
        (.query { Query.bare with targetList := [target (.ofInt4 2) 1 (some "x") false] }) false
      header := {
        correlation := none, eref := { name := "inner", colnames := ["x"] }, lateral := false,
        inh := false, inFromClause := true }
      securityQuals := [] }]
    targetList :=
      [target (binary 551 177 BuiltinType.int4.toOid
        (.ofVar 1 1 BuiltinType.int4.toOid (-1) Oid.invalid 0) (.ofInt4 1)) 1 none false] }

/-- The row of an integer without a collation and without a location. -/
def AttributeRow.ofInteger (kind : Node.Tag) : AttributeRow where
  kind
  typeOid := BuiltinType.int4.toOid
  typeName := some "int4"
  typmod := -1
  collation := Oid.invalid
  inputCollation := Oid.invalid
  location := none

theorem collectAttributes_agrees_with_countKinds_plusOne :
    collectAttributes .builtin .everything (.start 5) .plusOne =
        .ok ([.opExpr, .var, .const, .const].map AttributeRow.ofInteger) ∧
      exists counts : List (Node.Tag × Nat),
        countKinds .everything (.start 5) .plusOne = .ok counts ∧
          2 = (counts.lookup .const).getD 0 := by
  have hrows : collectAttributes .builtin .everything (.start 5) .plusOne =
      .ok ([.opExpr, .var, .const, .const].map AttributeRow.ofInteger) := by
    decide +kernel
  rcases collectAttributes_agrees_with_countKinds hrows with
    ⟨_, counts, _, hcounts, _, _, hcount⟩
  exact ⟨hrows, counts, hcounts, hcount .const rfl⟩

end QueryTree
