import QueryTree.Node.Clauses
import QueryTree.Node.Label

/-!
# Putting a node together again

Refilling a node with its own children gives the node back, and leaves the rest
of the supply untouched.  Refilled from any supply that is large enough, it shows
what it took as its children and is otherwise the node it was.  The same holds for
the clauses of a query and the contents of a range-table entry.
-/

namespace QueryTree
namespace Node
namespace Refill

/-!
# Running a refill
-/

@[simp] theorem pure_apply {α : Type} (x : α) (supply : List Node) :
    (pure x : Refill α) supply = (x, supply) :=
  rfl

@[simp] theorem bind_apply {α β : Type} (first : Refill α) (next : α -> Refill β)
    (supply : List Node) :
    (first >>= next) supply = next (first supply).1 (first supply).2 :=
  rfl

@[simp] theorem map_apply {α β : Type} (f : α -> β) (first : Refill α) (supply : List Node) :
    (f <$> first) supply = (f (first supply).1, (first supply).2) :=
  rfl

/-!
# Single slots
-/

@[simp] theorem one_cons (old new : Node) (rest : List Node) :
    one old (new :: rest) = (new, rest) :=
  rfl

@[simp] theorem opt_toList_append (old : Option Node) (rest : List Node) :
    opt old (old.toList ++ rest) = (old, rest) := by
  cases old with
  | none => rfl
  | some node => rfl

@[simp] theorem many_append (old rest : List Node) :
    many old (old ++ rest) = (old, rest) := by
  simp [many]

@[simp] theorem arms_flatMap_append (whens : List CaseWhen) (rest : List Node) :
    arms whens (whens.flatMap CaseWhen.nodes ++ rest) = (whens, rest) := by
  induction whens with
  | nil => rfl
  | cons w whens ih =>
      cases w with
      | mk expr result location =>
          have hstep :
              arms (⟨expr, result, location⟩ :: whens)
                  (expr :: result :: (whens.flatMap CaseWhen.nodes ++ rest)) =
                (⟨expr, result, location⟩ ::
                    (arms whens (whens.flatMap CaseWhen.nodes ++ rest)).1,
                  (arms whens (whens.flatMap CaseWhen.nodes ++ rest)).2) :=
            rfl
          simp only [List.flatMap_cons, CaseWhen.nodes, List.cons_append, List.nil_append]
          rw [hstep, ih]

/-!
# What a slot takes

A slot takes as many nodes as it held, which are what it holds afterwards.
-/

theorem many_apply (old supply : List Node) :
    many old supply = (supply.take old.length, supply.drop old.length) :=
  rfl

theorem one_rest (old : Node) (supply : List Node) : (one old supply).2 = supply.drop 1 := by
  cases supply with
  | nil => rfl
  | cons node rest => rfl

theorem one_taken {old : Node} {supply : List Node} (hlength : 1 <= supply.length)
    (others : List Node) : (one old supply).1 :: others = supply.take 1 ++ others := by
  cases supply with
  | nil => cases hlength
  | cons node rest => rfl

theorem opt_rest (old : Option Node) (supply : List Node) :
    (opt old supply).2 = supply.drop old.toList.length := by
  cases old with
  | none => rfl
  | some node => exact one_rest node supply

theorem opt_taken {old : Option Node} {supply : List Node}
    (hlength : old.toList.length <= supply.length) :
    (opt old supply).1.toList = supply.take old.toList.length := by
  cases old with
  | none => rfl
  | some node => exact (one_taken hlength []).trans (List.append_nil _)

theorem isSome_opt (old : Option Node) (supply : List Node) :
    (opt old supply).1.isSome = old.isSome := by
  cases old with
  | none => rfl
  | some node => rfl

theorem arms_rest (whens : List CaseWhen) (supply : List Node) :
    (arms whens supply).2 = supply.drop (whens.flatMap CaseWhen.nodes).length := by
  induction whens generalizing supply with
  | nil => rfl
  | cons w whens ih =>
      show (arms whens (one w.result (one w.expr supply).2).2).2 = _
      rw [ih, one_rest, one_rest, List.drop_drop, List.drop_drop, List.flatMap_cons,
        List.length_append, ← Nat.add_assoc]
      rfl

theorem arms_taken {whens : List CaseWhen} {supply : List Node}
    (hlength : (whens.flatMap CaseWhen.nodes).length <= supply.length) :
    (arms whens supply).1.flatMap CaseWhen.nodes =
      supply.take (whens.flatMap CaseWhen.nodes).length := by
  induction whens generalizing supply with
  | nil => rfl
  | cons w whens ih =>
      match supply with
      | [] => cases hlength
      | [_] => exact absurd hlength (by simp [CaseWhen.nodes])
      | first :: second :: rest =>
          have hrest : (whens.flatMap CaseWhen.nodes).length <= rest.length := by
            simpa [CaseWhen.nodes] using hlength
          show first :: second :: (arms whens rest).1.flatMap CaseWhen.nodes = _
          rw [ih hrest, List.flatMap_cons, List.length_append, Nat.add_comm]
          rfl

/-!
# Refilling again

What a slot takes depends on how many nodes it holds, and not on which ones.
-/

theorem many_rest (old supply : List Node) : (many old supply).2 = supply.drop old.length :=
  rfl

theorem one_one (old : Node) (supply : List Node) {next : List Node}
    (hlength : 1 <= next.length) : one (one old supply).1 next = one old next := by
  cases next with
  | nil => cases hlength
  | cons node rest => rfl

theorem opt_opt (old : Option Node) (supply : List Node) {next : List Node}
    (hlength : old.toList.length <= next.length) :
    opt (opt old supply).1 next = opt old next := by
  cases old with
  | none => rfl
  | some node =>
      show (some (one (one node supply).1 next).1, (one (one node supply).1 next).2) = _
      rw [one_one node supply hlength]
      rfl

theorem many_many {old supply : List Node} (hlength : old.length <= supply.length)
    (next : List Node) : many (many old supply).1 next = many old next := by
  rw [many_apply old supply, many_apply, many_apply, List.length_take_of_le hlength]

theorem arms_cons (w : CaseWhen) (whens : List CaseWhen) (supply : List Node) :
    arms (w :: whens) supply =
      ({ w with
          expr := (one w.expr supply).1
          result := (one w.result (one w.expr supply).2).1 } ::
          (arms whens (one w.result (one w.expr supply).2).2).1,
        (arms whens (one w.result (one w.expr supply).2).2).2) :=
  rfl

theorem arms_arms (whens : List CaseWhen) (supply : List Node) {next : List Node}
    (hlength : (whens.flatMap CaseWhen.nodes).length <= next.length) :
    arms (arms whens supply).1 next = arms whens next := by
  induction whens generalizing supply next with
  | nil => rfl
  | cons w whens ih =>
      match next with
      | [] => cases hlength
      | [_] => exact absurd hlength (by simp [CaseWhen.nodes])
      | first :: second :: rest =>
          have hrest : (whens.flatMap CaseWhen.nodes).length <= rest.length := by
            simpa [CaseWhen.nodes] using hlength
          simp only [arms_cons, one_cons, ih _ hrest]

end Refill

/-!
# Whole nodes
-/

/-- Refilling takes exactly the children from the supply. -/
theorem refill_children_append (node : Node) (rest : List Node) :
    node.refill (node.children ++ rest) = (node, rest) := by
  cases node <;>
    simp [refill, children, List.append_assoc]

theorem rebuild_children (node : Node) : node.rebuild node.children = node := by
  have hrefill := refill_children_append node []
  rw [List.append_nil] at hrefill
  rw [rebuild, hrefill]

open Refill in
theorem children_refill (node : Node) {supply : List Node}
    (hlength : node.children.length <= supply.length) :
    (node.refill supply).1.children = supply.take node.children.length := by
  cases node with
  | _ =>
      simp only [children, List.length_append, List.length_cons, List.length_nil,
        Nat.zero_add] at hlength
      simp (disch := grind) only [refill, children, bind_apply, pure_apply, many_apply, one_rest,
        one_taken, opt_rest, opt_taken, arms_rest, arms_taken, List.length_append,
        List.length_cons, List.length_nil, List.append_nil, Nat.zero_add, List.drop_drop,
        ← List.take_add, List.take_zero]

theorem children_rebuild {node : Node} {supply : List Node}
    (hlength : supply.length = node.children.length) :
    (node.rebuild supply).children = supply := by
  rw [rebuild, children_refill node (Nat.le_of_eq hlength.symm), ← hlength, List.take_length]

open Refill in
theorem refill_refill (node : Node) {supply next : List Node}
    (hsupply : node.children.length <= supply.length)
    (hnext : node.children.length <= next.length) :
    (node.refill supply).1.refill next = node.refill next := by
  cases node with
  | _ =>
      simp only [children, List.length_append, List.length_cons, List.length_nil,
        Nat.zero_add] at hsupply hnext
      simp (disch := grind) only [refill, bind_apply, pure_apply, many_rest, one_rest, opt_rest,
        arms_rest, many_many, one_one, opt_opt, arms_arms, List.drop_drop]

/-- The children that come last are the ones that stay. -/
theorem rebuild_rebuild {node : Node} {supply next : List Node}
    (hsupply : supply.length = node.children.length)
    (hnext : next.length = node.children.length) :
    (node.rebuild supply).rebuild next = node.rebuild next := by
  rw [rebuild, rebuild, refill_refill node (Nat.le_of_eq hsupply.symm) (Nat.le_of_eq hnext.symm),
    rebuild]

/-- A label tells nothing of the children. -/
theorem caption_rebuild (node : Node) (supply : List Node) :
    (node.rebuild supply).caption = node.caption := by
  cases node <;> rfl

theorem tag_rebuild (node : Node) (supply : List Node) : (node.rebuild supply).tag = node.tag :=
  congrArg Prod.fst (node.caption_rebuild supply)

end Node

/-!
# Queries and range-table entries
-/

theorem Query.refillClauses_clauses_append (q : Query) (rest : List Node) :
    q.refillClauses (q.clauses ++ rest) = (q, rest) := by
  cases q
  simp [refillClauses, clauses, List.append_assoc]

theorem Query.withClauses_clauses (q : Query) : q.withClauses q.clauses = q := by
  have hrefill := refillClauses_clauses_append q []
  rw [List.append_nil] at hrefill
  rw [withClauses, hrefill]

open Node.Refill in
theorem Query.clauses_withClauses {q : Query} {supply : List Node}
    (hlength : supply.length = q.clauses.length) : (q.withClauses supply).clauses = supply := by
  simp only [clauses, List.length_append] at hlength
  simp (disch := grind) only [withClauses, refillClauses, clauses, bind_apply, pure_apply,
    many_apply, opt_rest, opt_taken, List.drop_drop, ← List.take_add]
  rw [← hlength, List.take_length]

/-- The range table and the `WITH` list are no clauses. -/
theorem Query.clauses_replaced {q : Query} {supply : List Node}
    (hlength : supply.length = q.clauses.length) (rtable cteList : List Node) :
    ({ q.withClauses supply with rtable, cteList } : Query).clauses = supply :=
  clauses_withClauses hlength

open Node.Refill in
/-- The same for the clauses, whatever happens to the rest of the query in between. -/
theorem Query.withClauses_replaced {q : Query} {supply next : List Node}
    (hsupply : supply.length = q.clauses.length) (hnext : next.length = q.clauses.length)
    (rtable cteList : List Node) :
    ({ q.withClauses supply with rtable, cteList } : Query).withClauses next =
      { q.withClauses next with rtable, cteList } := by
  simp only [clauses, List.length_append] at hsupply hnext
  simp (disch := grind) only [withClauses, refillClauses, bind_apply, pure_apply, many_rest,
    opt_rest, many_many, opt_opt, List.drop_drop]

theorem RteKind.refill_contents_append (scope : Scope) (kind : RteKind) (rest : List Node) :
    kind.refill scope (kind.contents scope ++ rest) = (kind, rest) := by
  cases kind with
  | relation relId relKind tablesample =>
      simp [refill, contents]
  | subquery inner securityBarrier =>
      cases hskip : scope.skipSubqueries <;>
        simp [refill, contents, hskip]
  | join joinType aliasVars =>
      cases hskip : scope.skipJoinAliases <;>
        simp [refill, contents, hskip]
  | function functions ordinality =>
      simp [refill, contents]
  | values rows collations =>
      simp [refill, contents]
  | cte reference => rfl

theorem RangeTblEntry.withContents_contents (scope : Scope) (entry : RangeTblEntry) :
    entry.withContents scope (entry.contents scope) = entry := by
  cases entry with
  | mk kind header securityQuals =>
      have hquals := Node.Refill.many_append securityQuals []
      rw [List.append_nil] at hquals
      simp [withContents, refill, contents, RteKind.refill_contents_append, hquals]

open Node.Refill in
theorem RteKind.contents_refill (scope : Scope) (kind : RteKind) {supply : List Node}
    (hlength : (kind.contents scope).length <= supply.length) :
    (kind.refill scope supply).1.contents scope = supply.take (kind.contents scope).length ∧
      (kind.refill scope supply).2 = supply.drop (kind.contents scope).length := by
  cases kind with
  | relation relId relKind tablesample => exact ⟨opt_taken hlength, opt_rest tablesample supply⟩
  | subquery inner securityBarrier =>
      cases hskip : scope.skipSubqueries with
      | true => simp [refill, contents, hskip]
      | false =>
          simp only [contents, hskip, Bool.false_eq_true, if_false, List.length_singleton]
            at hlength ⊢
          simp [refill, hskip, one_rest, one_taken hlength]
  | join joinType aliasVars =>
      cases hskip : scope.skipJoinAliases with
      | true => simp [refill, contents, hskip]
      | false => simp [refill, contents, hskip, many_apply]
  | function functions ordinality => exact ⟨rfl, rfl⟩
  | values rows collations => exact ⟨rfl, rfl⟩
  | cte reference => exact ⟨rfl, rfl⟩

open Node.Refill in
theorem RangeTblEntry.contents_withContents {scope : Scope} {entry : RangeTblEntry}
    {supply : List Node} (hlength : supply.length = (entry.contents scope).length) :
    (entry.withContents scope supply).contents scope = supply := by
  rw [contents, List.length_append] at hlength
  have hkind := RteKind.contents_refill scope entry.kind
    (show (entry.kind.contents scope).length <= supply.length by omega)
  simp only [withContents, refill, contents, bind_apply, pure_apply, many_apply]
  rw [hkind.left, hkind.right, ← List.take_add, ← hlength, List.take_length]

open Node.Refill in
theorem RteKind.refill_refill (scope : Scope) (kind : RteKind) {supply next : List Node}
    (hsupply : (kind.contents scope).length <= supply.length)
    (hnext : (kind.contents scope).length <= next.length) :
    (kind.refill scope supply).1.refill scope next = kind.refill scope next := by
  cases kind with
  | subquery inner securityBarrier =>
      cases hskip : scope.skipSubqueries with
      | true => simp [refill, hskip]
      | false =>
          simp only [contents, hskip, Bool.false_eq_true, if_false, List.length_singleton] at hnext
          simp [refill, hskip, one_one _ _ hnext]
  | join joinType aliasVars =>
      cases hskip : scope.skipJoinAliases with
      | true => simp [refill, hskip]
      | false =>
          simp only [contents, hskip, Bool.false_eq_true, if_false] at hsupply
          simp [refill, hskip, many_many hsupply]
  | _ =>
      simp only [contents] at hsupply hnext
      simp (disch := assumption) only [refill, bind_apply, pure_apply, many_many, opt_opt]

open Node.Refill in
theorem RangeTblEntry.withContents_withContents {scope : Scope} {entry : RangeTblEntry}
    {supply next : List Node} (hsupply : supply.length = (entry.contents scope).length)
    (hnext : next.length = (entry.contents scope).length) :
    (entry.withContents scope supply).withContents scope next =
      entry.withContents scope next := by
  rw [contents, List.length_append] at hsupply hnext
  have hroom : (entry.kind.contents scope).length <= supply.length := by omega
  have hkind := RteKind.refill_refill scope entry.kind hroom
    (show (entry.kind.contents scope).length <= next.length by omega)
  have hrest := (RteKind.contents_refill scope entry.kind hroom).right
  simp only [withContents, refill, bind_apply, pure_apply, hkind, hrest]
  rw [many_many (by rw [List.length_drop]; omega)]

end QueryTree
