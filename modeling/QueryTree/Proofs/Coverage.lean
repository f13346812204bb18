import Mathlib.Algebra.Order.Group.Multiset
import Mathlib.Tactic.Abel
import QueryTree.Node.Build
import QueryTree.Proofs.Replies

/-!
# What a walk covers

A walk is compared with the tree itself, that is, with everything that the fields of
its nodes hold.  Over a well-formed tree it shows every expression as often as the tree
holds it, apart from those in the frames of windows: the windows of a query are passed
over together with its sort keys, but unlike these they hold expressions.
-/

namespace QueryTree

open Traversal Step

/-!
# Everything in a tree
-/

/-- Every node of a tree, each as often as some field holds it, the root first. -/
def Node.stored (node : Node) : List Node :=
  node :: node.slots.attach.flatMap fun ⟨child, _⟩ => child.stored
termination_by sizeOf node
decreasing_by
  rename_i hchild
  exact sizeOf_lt_of_mem_slots hchild

theorem Node.stored_eq (node : Node) :
    node.stored = node :: node.slots.flatMap stored := by
  rw [stored, List.flatMap_subtype (g := stored), List.unattach_attach]
  intro child hchild
  rfl

theorem Node.mem_stored_self (node : Node) : node ∈ node.stored := by
  rw [stored_eq]
  exact List.mem_cons_self

theorem Node.mem_stored_of_mem_slots {node child inner : Node} (hchild : child ∈ node.slots)
    (hinner : inner ∈ child.stored) : inner ∈ node.stored := by
  rw [stored_eq]
  exact List.mem_cons_of_mem _ (List.mem_flatMap.mpr ⟨child, hchild, hinner⟩)

theorem Node.mem_stored_trans {node part inner : Node} (hpart : part ∈ node.stored)
    (hinner : inner ∈ part.stored) : inner ∈ node.stored := by
  rw [stored_eq] at hpart
  rcases List.mem_cons.mp hpart with rfl | hbelow
  · exact hinner
  · rcases List.mem_flatMap.mp hbelow with ⟨child, hchild, hpartChild⟩
    apply mem_stored_of_mem_slots hchild
    exact mem_stored_trans hpartChild hinner
termination_by sizeOf node
decreasing_by exact sizeOf_lt_of_mem_slots hchild

/-- The portions of a query, those that a walk goes to and those that it passes over. -/
theorem Query.slots_perm (q : Query) :
    q.slots.Perm
      (q.clauses ++ q.rtable ++ q.cteList ++ q.windowClause ++
        (q.groupClause ++ q.distinctClause ++ q.sortClause)) := by
  rw [← Multiset.coe_eq_coe]
  simp only [slots, clauses, ← Multiset.coe_add]
  abel

/-!
# Well-formed trees
-/

namespace Node

/-- The keys by which a node sorts or groups. -/
def sortKeys : Node -> List Node
  | .setOperationStmt _ _ _ groupClauses => groupClauses
  | .windowClause _ partitionClause orderClause _ _ => partitionClause ++ orderClause
  | .query q => q.groupClause ++ q.distinctClause ++ q.sortClause
  | _ => []

def rangeTable : Node -> List Node
  | .query q => q.rtable
  | _ => []

/-- The slots of a node, less the range table of a query. -/
def besidesRangeTable : Node -> List Node
  | .query q => Query.slots { q with rtable := [] }
  | node => node.slots

def withList : Node -> List Node
  | .query q => q.cteList
  | _ => []

def windows : Node -> List Node
  | .query q => q.windowClause
  | _ => []

/-- What the fields of a node may hold. -/
structure Conforms (node : Node) : Prop where
  rangeTable : forall member : Node, member ∈ node.rangeTable -> member.tag = .rangeTblEntry
  besidesRangeTable : forall child : Node, child ∈ node.besidesRangeTable ->
    child.tag ≠ .rangeTblEntry
  withList : forall member : Node, member ∈ node.withList -> member.tag = .commonTableExpr
  windows : forall window : Node, window ∈ node.windows -> window.tag = .windowClause
  sortKeys : forall key : Node, key ∈ node.sortKeys -> key.tag = .sortGroupClause

instance (node : Node) : Decidable node.Conforms :=
  decidable_of_iff
    ((forall member : Node, member ∈ node.rangeTable -> member.tag = .rangeTblEntry) ∧
      (forall child : Node, child ∈ node.besidesRangeTable -> child.tag ≠ .rangeTblEntry) ∧
      (forall member : Node, member ∈ node.withList -> member.tag = .commonTableExpr) ∧
      (forall window : Node, window ∈ node.windows -> window.tag = .windowClause) ∧
      (forall key : Node, key ∈ node.sortKeys -> key.tag = .sortGroupClause))
    ⟨fun ⟨hrtable, hbesides, hctes, hwindows, hkeys⟩ =>
        ⟨hrtable, hbesides, hctes, hwindows, hkeys⟩,
      fun h => ⟨h.rangeTable, h.besidesRangeTable, h.withList, h.windows, h.sortKeys⟩⟩

/-- Range-table entries stand in range tables and nowhere else, and the lists of a query
hold what they are for. -/
structure WellFormed (node : Node) : Prop where
  root : node.tag ≠ .rangeTblEntry
  stored : forall inner : Node, inner ∈ node.stored -> inner.Conforms

theorem mem_slots_of_mem_besidesRangeTable {node child : Node}
    (hchild : child ∈ node.besidesRangeTable) : child ∈ node.slots := by
  cases node with
  | query q =>
      simp only [besidesRangeTable, slots, Query.slots, List.mem_append] at hchild ⊢
      grind
  | _ => exact hchild

theorem besidesRangeTable_of_plain {node : Node} (hplain : node.Plain) :
    node.besidesRangeTable = node.slots := by
  cases node with
  | query q => exact absurd rfl hplain.left
  | _ => rfl

theorem mem_besidesRangeTable_of_mem_clauses {child : Node} {q : Query}
    (hchild : child ∈ q.clauses) : child ∈ (Node.query q).besidesRangeTable :=
  Query.mem_slots_of_mem_clauses (q := { q with rtable := [] }) hchild

theorem mem_besidesRangeTable_of_mem_cteList {child : Node} {q : Query}
    (hchild : child ∈ q.cteList) : child ∈ (Node.query q).besidesRangeTable :=
  Query.mem_slots_of_mem_cteList (q := { q with rtable := [] }) hchild

/-- The slots of a part of a well-formed tree hold well-formed trees, range tables apart. -/
theorem WellFormed.of_besidesRangeTable {node part child : Node} (hnode : node.WellFormed)
    (hpart : part ∈ node.stored) (hchild : child ∈ part.besidesRangeTable) : child.WellFormed where
  root := (hnode.stored part hpart).besidesRangeTable child hchild
  stored := by
    intro inner hinner
    apply hnode.stored
    apply mem_stored_trans hpart
    exact mem_stored_of_mem_slots (mem_slots_of_mem_besidesRangeTable hchild) hinner

/-!
# Frames of windows
-/

/-- The offsets that bound the frame of a window. -/
def frame : Node -> List Node
  | .windowClause _ _ _ startOffset endOffset => startOffset.toList ++ endOffset.toList
  | _ => []

/-- Everything in the frames of the windows of a query. -/
def framed (node : Node) : List Node :=
  (node.windows.flatMap frame).flatMap stored

theorem mem_slots_of_mem_frame {window offset : Node} (hoffset : offset ∈ window.frame) :
    offset ∈ window.slots := by
  cases window with
  | windowClause data partitionClause orderClause startOffset endOffset =>
      rw [slots, List.append_assoc]
      exact List.mem_append_right _ hoffset
  | _ => cases hoffset

theorem mem_slots_of_mem_windows {node window : Node} (hwindow : window ∈ node.windows) :
    window ∈ node.slots := by
  cases node with
  | query q =>
      simp only [windows, slots, Query.slots, List.mem_append] at hwindow ⊢
      grind
  | _ => cases hwindow

theorem mem_framed {node inner : Node} :
    inner ∈ node.framed <->
      exists window offset : Node,
        window ∈ node.windows ∧ offset ∈ window.frame ∧ inner ∈ offset.stored := by
  simp only [framed, List.mem_flatMap]
  constructor
  · rintro ⟨offset, ⟨window, hwindow, hoffset⟩, hinner⟩
    exact ⟨window, offset, hwindow, hoffset, hinner⟩
  · rintro ⟨window, offset, hwindow, hoffset, hinner⟩
    exact ⟨offset, ⟨window, hwindow, hoffset⟩, hinner⟩

theorem tag_of_mem_framed {node inner : Node} (hinner : inner ∈ node.framed) :
    node.tag = .query := by
  rcases mem_framed.mp hinner with ⟨window, _, hwindow, _⟩
  cases node with
  | query q => rfl
  | _ => cases hwindow

theorem mem_framed_of_mem_stored {node part inner : Node} (hpart : part ∈ node.framed)
    (hinner : inner ∈ part.stored) : inner ∈ node.framed := by
  rcases mem_framed.mp hpart with ⟨window, offset, hwindow, hoffset, hstored⟩
  exact mem_framed.mpr ⟨window, offset, hwindow, hoffset, mem_stored_trans hstored hinner⟩

theorem mem_stored_of_mem_framed {node inner : Node} (hinner : inner ∈ node.framed) :
    inner ∈ node.stored := by
  rcases mem_framed.mp hinner with ⟨window, offset, hwindow, hoffset, hstored⟩
  apply mem_stored_of_mem_slots (mem_slots_of_mem_windows hwindow)
  exact mem_stored_of_mem_slots (mem_slots_of_mem_frame hoffset) hstored

end Node

/-!
# Counting nodes of some kinds
-/

/-- Measures that add up along lists agree on lists put together from lists on which
they agree. -/
theorem flatMap_agree {left right : List Node -> Multiset Node}
    (hleft : forall xs ys : List Node, left (xs ++ ys) = left xs + left ys)
    (hright : forall xs ys : List Node, right (xs ++ ys) = right xs + right ys)
    (hnil : left [] = right [])
    {first second : Node -> List Node} {nodes : List Node}
    (heach : forall node : Node, node ∈ nodes -> left (first node) = right (second node)) :
    left (nodes.flatMap first) = right (nodes.flatMap second) := by
  induction nodes with
  | nil => exact hnil
  | cons node rest ih =>
      rw [List.flatMap_cons, List.flatMap_cons, hleft, hright, heach node List.mem_cons_self]
      congr 1
      apply ih
      intro other hother
      exact heach other (List.mem_cons_of_mem node hother)

/-- The nodes of some kinds among others, each as often as it stands there. -/
def among (kind : Node.Tag -> Bool) (nodes : List Node) : Multiset Node :=
  ↑(nodes.filter fun node => kind node.tag)

abbrev exprs (nodes : List Node) : Multiset Node :=
  among Node.Tag.isExpr nodes

variable {kind : Node.Tag -> Bool}

theorem among_append (first second : List Node) :
    among kind (first ++ second) = among kind first + among kind second := by
  rw [among, List.filter_append, ← Multiset.coe_add]
  rfl

theorem among_cons (node : Node) (rest : List Node) :
    among kind (node :: rest) = among kind [node] + among kind rest :=
  among_append [node] rest

theorem among_singleton {node : Node} (hnode : kind node.tag = false) :
    among kind [node] = 0 := by
  rw [among, List.filter_cons_of_neg (by rw [hnode]; exact Bool.false_ne_true)]
  rfl

theorem mem_among {node : Node} {nodes : List Node} :
    node ∈ among kind nodes <-> node ∈ nodes ∧ kind node.tag = true := by
  rw [among, Multiset.mem_coe, List.mem_filter]

theorem among_eq_zero {nodes : List Node} :
    among kind nodes = 0 <-> forall node : Node, node ∈ nodes -> kind node.tag = false := by
  rw [Multiset.eq_zero_iff_forall_notMem]
  simp only [mem_among, not_and, Bool.not_eq_true]

theorem among_flatMap_congr {first second : Node -> List Node} {nodes : List Node}
    (heach : forall node : Node, node ∈ nodes ->
      among kind (first node) = among kind (second node)) :
    among kind (nodes.flatMap first) = among kind (nodes.flatMap second) :=
  flatMap_agree among_append among_append rfl heach

theorem among_perm {first second : List Node} (hperm : first.Perm second) :
    among kind first = among kind second :=
  Multiset.coe_eq_coe.mpr (hperm.filter _)

/-- Kinds other than the ones that a walk may pass over. -/
structure Covered (kind : Node.Tag -> Bool) : Prop where
  sortGroupClause : kind .sortGroupClause = false
  windowClause : kind .windowClause = false
  rangeTblEntry : kind .rangeTblEntry = false

theorem among_stored (node : Node) :
    among kind node.stored =
      among kind [node] + among kind (node.slots.flatMap Node.stored) := by
  rw [Node.stored_eq, among_cons]

theorem among_stored_of_notMem {node : Node} (hnode : kind node.tag = false) :
    among kind node.stored = among kind (node.slots.flatMap Node.stored) := by
  rw [among_stored, among_singleton hnode, zero_add]

theorem among_stored_keys (hkind : Covered kind) {keys : List Node}
    (hkeys : forall key : Node, key ∈ keys -> key.tag = .sortGroupClause) :
    among kind (keys.flatMap Node.stored) = 0 := by
  have heach : forall key : Node, key ∈ keys -> among kind key.stored = among kind [] := by
    intro key hkey
    have htag : key.tag = .sortGroupClause := hkeys key hkey
    rw [among_stored_of_notMem (by rw [htag]; exact hkind.sortGroupClause)]
    cases key with
    | sortGroupClause data => rfl
    | _ => cases htag
  rw [among_flatMap_congr heach, List.flatMap_eq_nil_iff.mpr fun _ _ => rfl]
  rfl

theorem among_stored_windows (hkind : Covered kind) {windows : List Node}
    (htags : forall window : Node, window ∈ windows -> window.tag = .windowClause)
    (hconforms : forall window : Node, window ∈ windows -> window.Conforms) :
    among kind (windows.flatMap Node.stored) =
      among kind ((windows.flatMap Node.frame).flatMap Node.stored) := by
  rw [List.flatMap_assoc]
  apply among_flatMap_congr
  intro window hwindow
  have htag : window.tag = .windowClause := htags window hwindow
  rw [among_stored_of_notMem (by rw [htag]; exact hkind.windowClause)]
  have hkeys := among_stored_keys hkind (hconforms window hwindow).sortKeys
  cases window with
  | windowClause data partitionClause orderClause startOffset endOffset =>
      simp only [Node.sortKeys] at hkeys
      rw [Node.slots, Node.frame, List.append_assoc, List.flatMap_append, among_append, hkeys,
        zero_add]
  | _ => cases htag

/-!
# The nodes on a trace
-/

/-- The nodes that a walk in full scope shows. -/
def Node.seen (depth : Nat) (node : Node) : List Node :=
  (node.trace .everything depth).map Prod.fst

theorem Node.seen_of_plain {node : Node} (hplain : node.Plain) (depth : Nat) :
    node.seen depth = node :: node.children.flatMap (seen (depth + 1)) := by
  rw [seen, trace_of_plain hplain, List.map_cons, List.map_flatMap]
  rfl

/-- The nodes that it shows of one member of a range table. -/
def Node.seenInEntry (depth : Nat) : Node -> List Node
  | .rangeTblEntry entry => entry.slots.flatMap (seen depth)
  | _ => []

theorem Node.map_entryTrace (depth : Nat) (node : Node) :
    (entryTrace (fun scope node depth => node.trace scope depth) .everything depth node).map
      Prod.fst = node.seenInEntry depth := by
  cases node with
  | rangeTblEntry entry =>
      rw [seenInEntry, ← RangeTblEntry.contents_everything]
      exact List.map_flatMap
  | _ => rfl

theorem Node.seen_query (q : Query) (depth : Nat) :
    (Node.query q).seen depth =
      .query q ::
        (q.clauses.flatMap (seen (depth + 1)) ++
          (q.rtable.flatMap (seenInEntry (depth + 2)) ++
            q.cteList.flatMap (seen (depth + 1)))) := by
  have hrtable :
      (q.rtable.flatMap (entryTrace (fun scope node depth => node.trace scope depth)
        .everything (depth + 2))).map Prod.fst =
        q.rtable.flatMap (seenInEntry (depth + 2)) := by
    rw [List.map_flatMap]
    congr 1
    funext member
    exact map_entryTrace (depth + 2) member
  rw [seen, inPreorder_trace.query, List.map_cons, List.map_append, List.map_append,
    List.map_flatMap, ← hrtable]
  congr 3
  exact List.map_flatMap

/-- What a walk shows, and what it misses: the frames of the windows of the queries it
shows. -/
def account (kind : Node.Tag -> Bool) (nodes : List Node) : Multiset Node :=
  among kind nodes + among kind (nodes.flatMap Node.framed)

theorem account_append (first second : List Node) :
    account kind (first ++ second) = account kind first + account kind second := by
  rw [account, account, account, List.flatMap_append, among_append, among_append]
  abel

theorem account_cons (node : Node) (rest : List Node) :
    account kind (node :: rest) = account kind [node] + account kind rest :=
  account_append [node] rest

theorem account_flatMap {first second : Node -> List Node} {nodes : List Node}
    (heach : forall node : Node, node ∈ nodes ->
      account kind (first node) = among kind (second node)) :
    account kind (nodes.flatMap first) = among kind (nodes.flatMap second) :=
  flatMap_agree account_append among_append rfl heach

theorem account_singleton {node : Node} :
    account kind [node] = among kind [node] + among kind node.framed := by
  rw [account, List.flatMap_singleton]

theorem account_seenInEntry (hkind : Covered kind) {entry : RangeTblEntry} {depth : Nat}
    (hseen : forall node : Node, node ∈ entry.slots ->
      account kind (node.seen depth) = among kind node.stored) :
    account kind ((Node.rangeTblEntry entry).seenInEntry depth) =
      among kind (Node.rangeTblEntry entry).stored := by
  rw [Node.seenInEntry, account_flatMap hseen, among_stored_of_notMem hkind.rangeTblEntry]
  rfl

theorem account_seen_query (hkind : Covered kind) {q : Query} (hq : (Node.query q).WellFormed)
    {depth : Nat}
    (hclauses : forall node : Node, node ∈ q.clauses ->
      account kind (node.seen (depth + 1)) = among kind node.stored)
    (hrtable : forall member : Node, member ∈ q.rtable ->
      account kind (member.seenInEntry (depth + 2)) = among kind member.stored)
    (hctes : forall node : Node, node ∈ q.cteList ->
      account kind (node.seen (depth + 1)) = among kind node.stored) :
    account kind ((Node.query q).seen depth) = among kind (Node.query q).stored := by
  have hconforms : (Node.query q).Conforms := hq.stored _ (Node.mem_stored_self _)
  have hkeys : among kind
      ((q.groupClause ++ q.distinctClause ++ q.sortClause).flatMap Node.stored) = 0 :=
    among_stored_keys hkind hconforms.sortKeys
  have hwindows : among kind (q.windowClause.flatMap Node.stored) =
      among kind (Node.query q).framed := by
    apply among_stored_windows hkind hconforms.windows
    intro window hwindow
    apply hq.stored
    exact Node.mem_stored_of_mem_slots (Node.mem_slots_of_mem_windows hwindow)
      window.mem_stored_self
  rw [Node.seen_query, account_cons, account_append, account_append, account_flatMap hclauses,
    account_flatMap hrtable, account_flatMap hctes, account_singleton, ← hwindows,
    among_stored, Node.slots, among_perm (q.slots_perm.flatMap_right Node.stored),
    List.flatMap_append, among_append, hkeys]
  simp only [List.flatMap_append, among_append]
  abel

theorem account_seen_of_plain (hkind : Covered kind) {node : Node} (hplain : node.Plain)
    (hnode : node.Conforms) {depth : Nat}
    (hchildren : forall child : Node, child ∈ node.children ->
      account kind (child.seen (depth + 1)) = among kind child.stored) :
    account kind (node.seen depth) = among kind node.stored := by
  have hkeys : among kind (node.groupKeys.flatMap Node.stored) = 0 := by
    apply among_stored_keys hkind
    cases node with
    | setOperationStmt data left right groupClauses => exact hnode.sortKeys
    | _ =>
        intro key hkey
        cases hkey
  have hframed : among kind node.framed = 0 := by
    apply among_eq_zero.mpr
    intro inner hinner
    exact absurd (Node.tag_of_mem_framed hinner) hplain.left
  rw [Node.seen_of_plain hplain, account_cons, account_singleton, account_flatMap hchildren,
    among_stored, Node.slots_of_plain hplain, List.flatMap_append, among_append, hkeys, hframed,
    add_zero, add_zero]

/-- Over a well-formed tree, what is shown and what is missed make up the tree, as far
as the kinds matter. -/
theorem account_seen (hkind : Covered kind) (node : Node) (hnode : node.WellFormed)
    (depth : Nat) : account kind (node.seen depth) = among kind node.stored := by
  -- along plans and not along slots, since the contents of an entry are shown right below the
  -- query, at a depth that skips the entry
  induction node using Node.inductionOnPlan .everything generalizing depth with
  | step node ih =>
      induction node using Node.byParts with
      | query q =>
          apply account_seen_query hkind hnode
          · intro clause hclause
            have hvisit : .visit clause 1 ∈ (Node.query q).plan .everything 0 :=
              Query.visit_mem_plan.mpr (Or.inl ⟨hclause, rfl⟩)
            apply ih clause 0 1 hvisit
            exact hnode.of_besidesRangeTable (Node.mem_stored_self _)
              (Node.mem_besidesRangeTable_of_mem_clauses hclause)
          · intro member hmember
            have hentry : member.tag = .rangeTblEntry :=
              (hnode.stored _ (Node.mem_stored_self _)).rangeTable member hmember
            have hstored : member ∈ (Node.query q).stored :=
              Node.mem_stored_of_mem_slots (Query.mem_slots_of_mem_rtable hmember)
                member.mem_stored_self
            cases member with
            | rangeTblEntry entry =>
                apply account_seenInEntry hkind
                intro node hslot
                have hcontents : node ∈ entry.contents .everything := by
                  rw [RangeTblEntry.contents_everything]
                  exact hslot
                have hplan : .visit node 2 ∈ (Node.rangeTblEntry entry).entryPlan .everything 1 :=
                  Node.visit_mem_entryPlan.mpr ⟨entry, rfl, rfl, Or.inr hcontents⟩
                have hvisit : .visit node 2 ∈ (Node.query q).plan .everything 0 :=
                  Query.visit_mem_plan.mpr (Or.inr (Or.inl ⟨rfl, _, hmember, hplan⟩))
                exact ih node 0 2 hvisit (hnode.of_besidesRangeTable hstored hslot) (depth + 2)
            | _ => cases hentry
          · intro cte hcte
            have hvisit : .visit cte 1 ∈ (Node.query q).plan .everything 0 :=
              Query.visit_mem_plan.mpr (Or.inr (Or.inr ⟨rfl, hcte, rfl⟩))
            apply ih cte 0 1 hvisit
            exact hnode.of_besidesRangeTable (Node.mem_stored_self _)
              (Node.mem_besidesRangeTable_of_mem_cteList hcte)
      | entry entry => exact absurd rfl hnode.root
      | plain node hplain =>
          apply account_seen_of_plain hkind hplain (hnode.stored node node.mem_stored_self)
          intro child hchild
          apply ih child 0 1 ((Node.visit_mem_plan_of_plain hplain).mpr ⟨hchild, rfl⟩)
          apply hnode.of_besidesRangeTable node.mem_stored_self
          rw [Node.besidesRangeTable_of_plain hplain]
          exact Node.mem_slots_of_mem_children hplain hchild

theorem covered_isExpr : Covered Node.Tag.isExpr where
  sortGroupClause := rfl
  windowClause := rfl
  rangeTblEntry := rfl

theorem covered_query : Covered (fun tag => decide (tag = .query)) where
  sortGroupClause := rfl
  windowClause := rfl
  rangeTblEntry := rfl

/-- A query in a well-formed tree is shown, or it is in a frame that is missed. -/
theorem Node.WellFormed.query_mem_stored {node part : Node} (hnode : node.WellFormed)
    (hpart : part.tag = .query) (depth : Nat) :
    part ∈ node.stored <->
      part ∈ node.seen depth ∨ part ∈ (node.seen depth).flatMap Node.framed := by
  have hquery : decide (part.tag = .query) = true := decide_eq_true hpart
  have hmem : part ∈ account (fun tag => decide (tag = .query)) (node.seen depth) <->
      part ∈ among (fun tag => decide (tag = .query)) node.stored := by
    rw [account_seen covered_query node hnode depth]
  rw [account, Multiset.mem_add, mem_among, mem_among, mem_among] at hmem
  simp only [hquery, and_true] at hmem
  exact hmem.symm

/-!
# Recording a walk
-/

variable {ε : Type} [OfTreeError ε]

/-- Write down every node, and go on. -/
def record : Visitor (List Node) ε := fun node => do
  modifyState (· ++ [node])
  return .proceed

omit [OfTreeError ε] in
theorem notes_record :
    Notes (fun log visit => log ++ [visit.1]) (record : Visitor (List Node) ε) := by
  intro node nesting log
  rfl

/-- The record of a walk that succeeds is its trace. -/
theorem record_eq_seen {node : Node} {nesting after : Nesting} {control : Control}
    {shown : List Node}
    (hrun : runFrom (walkTree (record : Visitor (List Node) ε) .everything node) nesting [] =
      (.ok control, after, shown)) :
    shown = node.seen nesting.depth := by
  rcases notes_record.runFrom_walkTree.mp hrun with ⟨_, _, hafter⟩
  rw [foldl_append_singleton] at hafter
  exact congrArg Prod.snd hafter

/-- A well-formed tree is shown in full where no query in it has a window whose frame
holds an expression.  In general, what is in such frames is just what is missed. -/
theorem exprs_shown_eq_iff_unframed {node : Node} (hnode : node.WellFormed)
    {nesting after : Nesting} {control : Control} {shown : List Node}
    (hrun : runFrom (walkTree (record : Visitor (List Node) ε) .everything node) nesting [] =
      (.ok control, after, shown)) :
    exprs node.stored = exprs shown + exprs (shown.flatMap Node.framed) ∧
      (exprs shown = exprs node.stored <->
        forall part inner : Node, part ∈ node.stored -> inner ∈ part.framed ->
          inner.isExpr = false) := by
  have hshown := record_eq_seen hrun
  have hexprs : exprs node.stored = exprs shown + exprs (shown.flatMap Node.framed) := by
    rw [hshown]
    exact (account_seen covered_isExpr node hnode nesting.depth).symm
  refine ⟨hexprs, ?_⟩
  rw [hexprs, left_eq_add, among_eq_zero, hshown]
  constructor
  · intro hnone part inner hpart hinner
    apply hnone
    rcases (hnode.query_mem_stored (Node.tag_of_mem_framed hinner) nesting.depth).mp hpart with
      hseen | hframed
    · exact List.mem_flatMap.mpr ⟨part, hseen, hinner⟩
    · -- a query inside a frame that is missed takes its own frames along
      rcases List.mem_flatMap.mp hframed with ⟨outer, houter, hpartOuter⟩
      have hinnerPart : inner ∈ part.stored := Node.mem_stored_of_mem_framed hinner
      exact List.mem_flatMap.mpr
        ⟨outer, houter, Node.mem_framed_of_mem_stored hpartOuter hinnerPart⟩
  · intro hnone inner hinner
    rcases List.mem_flatMap.mp hinner with ⟨part, hpart, hframed⟩
    have hstored : part ∈ node.stored :=
      (hnode.query_mem_stored (Node.tag_of_mem_framed hframed) nesting.depth).mpr (Or.inl hpart)
    exact hnone part inner hstored hframed

/-- A window whose frame starts at an offset. -/
def Node.framedWindow : Node :=
  .windowClause
    { name := none, refName := none, frameOptions := 0, winref := 1, copiedOrder := false }
    [] [] (some (.ofInt4 1)) none

def Node.framedSelect : Node :=
  .query { Query.bare with windowClause := [.framedWindow] }

theorem Node.wellFormed_framedSelect : framedSelect.WellFormed where
  root := by
    intro htag
    cases htag
  stored := by
    have hstored : framedSelect.stored = [framedSelect, framedWindow, .ofInt4 1] := by
      simp [stored_eq, framedSelect, framedWindow, slots, Query.slots, Query.bare, ofInt4,
        ofDatum]
    rw [hstored]
    decide

/-- The walk shows the query alone, and the offset is missed. -/
theorem exprs_shown_ne_framedSelect :
    Node.framedSelect.WellFormed ∧
      runFrom (walkTree (record : Visitor (List Node) TreeError) .everything Node.framedSelect)
        (.start 1) [] = (.ok .proceed, .start 1, [Node.framedSelect]) ∧
      exprs [Node.framedSelect] ≠ exprs Node.framedSelect.stored := by
  have hrun :
      runFrom (walkTree (record : Visitor (List Node) TreeError) .everything Node.framedSelect)
        (.start 1) [] = (.ok .proceed, .start 1, [Node.framedSelect]) :=
    rfl
  refine ⟨Node.wellFormed_framedSelect, hrun, ?_⟩
  intro hequal
  have hnone := (exprs_shown_eq_iff_unframed Node.wellFormed_framedSelect hrun).right.mp hequal
  have hframed : Node.ofInt4 1 ∈ Node.framedSelect.framed :=
    Node.mem_framed.mpr
      ⟨.framedWindow, .ofInt4 1, List.mem_singleton_self _, List.mem_singleton_self _,
        Node.mem_stored_self _⟩
  cases hnone Node.framedSelect (.ofInt4 1) (Node.mem_stored_self _) hframed

end QueryTree
