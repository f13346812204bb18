import QueryTree.Proofs.CollationSlots
import QueryTree.Proofs.Outcomes
import QueryTree.Proofs.Replies

/-!
# Assigning a collation to a tree

The pass rebuilds a node from its children and marks it if its type is collatable.  It looks
the type up in a tree that is already marked below, and puts the collation on with the
checked setter.  Both are sound for the same reason: no type depends on a collation, so the
type of the rebuilt node is that of the node that it was.  Hence nothing is ever refused,
the tree keeps its shape and its types, and a tree that has been marked stays as it is.
-/

namespace QueryTree

open Traversal Lookup

variable {catalog : Catalog} {collation : Oid} {depth limit : Nat}

/-!
# Types of rebuilt nodes
-/

/-- Two nodes that a type lookup does not tell apart, be it for their own type or for that of
a sub-select. -/
structure KeepsType (catalog : Catalog) (node other : Node) : Prop where
  levels : forall levels : Nat,
    recurse.bounded (fun typeOf node => guarded (Node.typeWith catalog typeOf node)) levels other =
      recurse.bounded (fun typeOf node => guarded (Node.typeWith catalog typeOf node)) levels node
  target : other.subLinkTarget = node.subLinkTarget

namespace KeepsType

theorem type {node other : Node} (hkeeps : KeepsType catalog node other) :
    other.exprType catalog = node.exprType catalog :=
  recurse_congr hkeeps.levels

theorem trans {node other third : Node} (hfirst : KeepsType catalog node other)
    (hsecond : KeepsType catalog other third) : KeepsType catalog node third where
  levels levels := (hsecond.levels levels).trans (hfirst.levels levels)
  target := hsecond.target.trans hfirst.target

theorem of_rule {node other : Node}
    (hrule : forall typeOf : Node -> Lookup Oid,
      other.typeWith catalog typeOf = node.typeWith catalog typeOf)
    (htarget : other.subLinkTarget = node.subLinkTarget) : KeepsType catalog node other where
  levels levels := by
    cases levels with
    | zero => rfl
    | succ levels => rw [recurse.bounded, recurse.bounded, hrule]
  target := htarget

end KeepsType

namespace Node

/-- The type of a node depends on its children by way of their types and of the columns of a
sub-select. -/
theorem typeWith_rebuild {typeOf : Node -> Lookup Oid} {node : Node} {supply : List Node}
    (hchildren : List.Forall₂ (fun child new =>
      typeOf new = typeOf child ∧ new.subLinkTarget = child.subLinkTarget) node.children supply) :
    (node.rebuild supply).typeWith catalog typeOf = node.typeWith catalog typeOf := by
  cases node with
  | namedArgExpr | collateExpr | inferenceElem =>
      rcases hchildren with _ | ⟨hchild, _ | _⟩
      exact hchild.left
  | subLink data testExpr subselect =>
      rcases rebuild_subLink data hchildren with ⟨newTest, replaced, hrebuild, _, htarget⟩
      rw [hrebuild, typeWith, typeWith, htarget]
  | arrayRef data upperIndex lowerIndex expr assignExpr =>
      exact typeWith_rebuild_arrayRef catalog typeOf data hchildren.length_eq.symm
  | _ => rfl

/-- Only a query has output columns, and it has no children. -/
theorem subLinkTarget_rebuild (node : Node) (supply : List Node) :
    (node.rebuild supply).subLinkTarget = node.subLinkTarget := by
  cases node <;> rfl

theorem keepsType_rebuild {node : Node} {supply : List Node}
    (hchildren : List.Forall₂ (KeepsType catalog) node.children supply) :
    KeepsType catalog node (node.rebuild supply) where
  levels levels := by
    cases levels with
    | zero => rfl
    | succ levels =>
        rw [recurse.bounded, recurse.bounded, typeWith_rebuild]
        exact hchildren.imp fun child new hkeeps => ⟨hkeeps.levels levels, hkeeps.target⟩
  target := subLinkTarget_rebuild node supply

end Node

/-!
# Marking one node
-/

/-- The node is an expression of a collatable type. -/
def Node.Collatable (catalog : Catalog) (nesting : Nesting) (node : Node) : Prop :=
  node.isExpr = true ∧ exists type : Oid,
    (node.exprType catalog).answer nesting = .ok type ∧ catalog.isCollatable type = true

/-- The outcome of marking a node: both collations are set if it is an expression of a
collatable type.  The type of any other expression is found too. -/
inductive Marked (catalog : Catalog) (collation : Oid) (nesting : Nesting) (node : Node) :
    Node -> Prop where
  | set {result : Node} (hcollatable : node.Collatable catalog nesting)
      (hset : node.setCollation collation = .ok result) :
      Marked catalog collation nesting node (result.setInputCollation collation)
  | kept (hnot : ¬ node.Collatable catalog nesting)
      (hfound : node.isExpr = true ->
        exists type : Oid, (node.exprType catalog).answer nesting = .ok type) :
      Marked catalog collation nesting node node

section

variable {nesting : Nesting} {node result : Node}

/-- The check never refuses the collation of a collatable type. -/
theorem runFrom_setCollationChecked_of_collatable (hcollatable : node.Collatable catalog nesting)
    (hset : node.setCollation collation = .ok result) :
    runFrom (node.setCollationChecked catalog collation) nesting () =
      (.ok result, nesting, ()) := by
  rcases hcollatable with ⟨_, type, htype, hcollatable⟩
  have hplaced : forall other : Oid, ¬ node.Misplaced catalog nesting collation other := by
    rintro other ⟨_, _, hother, hnot⟩
    rw [htype] at hother
    cases hother
    rw [hcollatable] at hnot
    cases hnot
  rw [Node.runFrom_setCollationChecked hplaced, hset]
  rfl

theorem runFrom_assignHere_of_collatable (hcollatable : node.Collatable catalog nesting)
    (hset : node.setCollation collation = .ok result) :
    runFrom (node.assignHere catalog collation) nesting () =
      (.ok (result.setInputCollation collation), nesting, ()) := by
  have hchecked := runFrom_setCollationChecked_of_collatable hcollatable hset
  rcases hcollatable with ⟨hexpr, type, htype, hyes⟩
  rw [Node.assignHere, if_pos hexpr, runFrom_bind, Node.runFrom_liftM_exprType, htype]
  show runFrom (if catalog.isCollatable type = true then _ else _) nesting () = _
  rw [if_pos hyes, runFrom_bind, hchecked]
  rfl

theorem runFrom_assignHere_of_not_collatable (hnot : ¬ node.Collatable catalog nesting)
    (hfound : node.isExpr = true ->
      exists type : Oid, (node.exprType catalog).answer nesting = .ok type) :
    runFrom (node.assignHere catalog collation) nesting () = (.ok node, nesting, ()) := by
  rw [Node.assignHere]
  by_cases hexpr : node.isExpr = true
  · rcases hfound hexpr with ⟨type, htype⟩
    have hno : ¬ catalog.isCollatable type = true := by
      intro hyes
      exact hnot ⟨hexpr, type, htype, hyes⟩
    rw [if_pos hexpr, runFrom_bind, Node.runFrom_liftM_exprType, htype]
    show runFrom (if catalog.isCollatable type = true then _ else _) nesting () = _
    rw [if_neg hno]
    rfl
  · rw [if_neg hexpr]
    rfl

/-- Marking sets collations and nothing else. -/
theorem Marked.sameRules (hmarked : Marked catalog collation nesting node result) :
    node.SameRules catalog result := by
  cases hmarked with
  | set _ hset =>
      exact (Node.sameRules_setCollation catalog hset).trans
        (Node.sameRules_setInputCollation _ collation catalog)
  | kept => exact ⟨rfl, rfl, rfl, fun _ => rfl, fun _ _ => rfl, fun _ => rfl, rfl⟩

theorem Marked.keepsType (hmarked : Marked catalog collation nesting node result) :
    KeepsType catalog node result :=
  .of_rule hmarked.sameRules.typeWith hmarked.sameRules.subLinkTarget

theorem collatable_congr {other : Node} (htag : other.tag = node.tag)
    (htype : other.exprType catalog = node.exprType catalog) :
    other.Collatable catalog nesting <-> node.Collatable catalog nesting := by
  rw [Node.Collatable, Node.Collatable, Node.isExpr, Node.isExpr, htag, htype]

/-- What is marked already stays as it is. -/
theorem runFrom_assignHere_of_marked (hmarked : Marked catalog collation nesting node result) :
    runFrom (result.assignHere catalog collation) nesting () = (.ok result, nesting, ()) := by
  cases hmarked with
  | kept hnot hfound => exact runFrom_assignHere_of_not_collatable hnot hfound
  | set hcollatable hset =>
      rename_i inner
      have hsame := (Marked.set hcollatable hset).sameRules.attributes
      have hagain : (inner.setInputCollation collation).setCollation collation =
          .ok (inner.setInputCollation collation) := by
        rw [Node.setCollation_setInputCollation, Node.setCollation_setCollation hset, hset]
        rfl
      rw [runFrom_assignHere_of_collatable
        ((collatable_congr hsame.tag hsame.type).mpr hcollatable) hagain,
        Node.setInputCollation_setInputCollation]

end

/-- The tree is to blame, not the collation. -/
def CollationError.IsTree (error : CollationError) : Prop :=
  exists cause : TreeError, error = .tree cause

theorem ends_assignHere (node : Node) :
    Ends limit depth (node.assignHere catalog collation)
      (Marked catalog collation { depth, limit } node) CollationError.IsTree := by
  intro _
  by_cases hcollatable : node.Collatable catalog { depth, limit }
  · rcases Node.exists_setCollation hcollatable.left collation with ⟨result, hset⟩
    left
    exact ⟨_, (), runFrom_assignHere_of_collatable hcollatable hset, .set hcollatable hset⟩
  · by_cases hfound : node.isExpr = true ->
        exists type : Oid, (node.exprType catalog).answer { depth, limit } = .ok type
    · left
      exact ⟨node, (), runFrom_assignHere_of_not_collatable hcollatable hfound,
        .kept hcollatable hfound⟩
    · rcases Classical.not_imp.mp hfound with ⟨hexpr, hnone⟩
      right
      rw [Node.assignHere, if_pos hexpr, runFrom_bind, Node.runFrom_liftM_exprType]
      cases htype : (node.exprType catalog).answer { depth, limit } with
      | ok type => exact absurd ⟨type, htype⟩ hnone
      | error cause => exact ⟨.tree cause, (), rfl, cause, rfl⟩

/-!
# Charting the expressions of a tree
-/

/-- Show every node of a tree to a callback, each one before those below it.  Queries are
shown but not entered. -/
def walkExprTree {σ ε : Type} [OfTreeError ε] (callback : Visitor σ ε) (node : Node) :
    Traversal σ ε Control :=
  recurse (fun visit node => andThen (callback node) (walkChildren visit node)) node

/-- From this depth the walk goes through and writes down these nodes with their depths. -/
def Charts (limit depth : Nat) (walk : Traversal (List (Node × Nat)) TreeError Control)
    (shown : List (Node × Nat)) : Prop :=
  forall log : List (Node × Nat),
    runFrom walk { depth, limit } log = (.ok .proceed, { depth, limit }, log ++ shown)

/-- The walk that writes down what it is shown. -/
def chartExprTree (node : Node) : Traversal (List (Node × Nat)) TreeError Control :=
  walkExprTree Reply.chart.run node

theorem charts_visitAll {α : Type}
    {visit : α -> Traversal (List (Node × Nat)) TreeError Control} {xs : List α}
    {lists : List (List (Node × Nat))}
    (heach : List.Forall₂ (fun x shown => Charts limit depth (visit x) shown) xs lists) :
    Charts limit depth (visitAll visit xs) lists.flatten := by
  induction heach with
  | nil =>
      intro log
      rw [List.flatten_nil, List.append_nil]
      rfl
  | cons hfirst _ ih =>
      intro log
      rw [visitAll, runFrom_andThen, hfirst, List.flatten_cons, ← List.append_assoc]
      exact ih _

theorem charts_chartExprTree (hroom : depth < limit) {node : Node}
    (hentry : node.tag ≠ .rangeTblEntry) {lists : List (List (Node × Nat))}
    (hchildren : List.Forall₂
      (fun child shown => Charts limit (depth + 1) (chartExprTree child) shown)
      node.children lists) :
    Charts limit depth (chartExprTree node) ((node, depth) :: lists.flatten) := by
  intro log
  let visit : Visitor (List (Node × Nat)) TreeError :=
    recurse.bounded (fun visit node => andThen (Reply.chart.run node) (walkChildren visit node))
      (limit - depth)
  have hbelow : Charts limit (depth + 1) (visitAll visit node.children) lists.flatten := by
    apply charts_visitAll
    apply hchildren.imp
    intro child shown hchild log
    exact (runFrom_bounded _ hroom child log).trans (hchild log)
  have hunrolled : runFrom (chartExprTree node) { depth, limit } log =
      runFrom (walkChildren visit node) { depth, limit } (log ++ [(node, depth)]) :=
    rfl
  rw [hunrolled, walkChildren_of_tag_ne hentry, runFrom_guarded, Nesting.enter?,
    if_pos (Nat.succ_le_of_lt hroom)]
  simp only [hbelow _]
  rw [List.append_assoc]
  rfl

/-!
# The pass
-/

/-- How the pass treats a node that a walk shows: the node stays of its kind and type, and
has the collation in its slots if its type is collatable; otherwise nothing but its children
is different. -/
structure Reassigned (catalog : Catalog) (collation : Oid) (limit : Nat)
    (before after : Node × Nat) : Prop where
  depth : after.2 = before.2
  tag : after.1.tag = before.1.tag
  type : after.1.exprType catalog = before.1.exprType catalog
  found : before.1.isExpr = true ->
    exists type : Oid,
      (before.1.exprType catalog).answer { depth := before.2, limit } = .ok type
  slot : before.1.Collatable catalog { depth := before.2, limit } ->
    after.1.tag.storesCollation = true ->
      after.1.exprCollation.answer { depth := before.2, limit } = .ok collation
  inputSlot : before.1.Collatable catalog { depth := before.2, limit } ->
    after.1.tag.storesInputCollation = true -> after.1.inputCollation = collation
  kept : ¬ before.1.Collatable catalog { depth := before.2, limit } ->
    after.1 = before.1.rebuild after.1.children

/-- How the pass treats a tree: as stated of every node that a walk shows, and so that it has
nothing left to do. -/
structure Assigned (catalog : Catalog) (collation : Oid) (limit : Nat) (node : Node)
    (depth : Nat) (result : Node) : Prop where
  keepsType : KeepsType catalog node result
  shows : exists shown after : List (Node × Nat),
    Charts limit depth (chartExprTree node) shown ∧
      Charts limit depth (chartExprTree result) after ∧
      List.Forall₂ (Reassigned catalog collation limit) shown after
  settled : Ends limit depth (result.assignCollation catalog collation)
    (fun answer => answer = result) fun _ => False

section

variable {node result : Node} {children : List Node}

theorem reassigned_of_marked (hroom : depth < limit)
    (hlength : children.length = node.children.length)
    (htype : (node.rebuild children).exprType catalog = node.exprType catalog)
    (hmarked : Marked catalog collation { depth, limit } (node.rebuild children) result) :
    Reassigned catalog collation limit (node, depth) (result, depth) := by
  have htag := Node.tag_rebuild node children
  have hsame := hmarked.sameRules.attributes
  -- what was looked up is the type of the rebuilt node, and it is the type of the node before
  have hiff : (node.rebuild children).Collatable catalog { depth, limit } <->
      node.Collatable catalog { depth, limit } :=
    collatable_congr htag htype
  refine ⟨rfl, hsame.tag.trans htag, hsame.type.trans htype, ?_, ?_, ?_, ?_⟩
  · intro hexpr
    cases hmarked with
    | set hcollatable _ =>
        rcases hiff.mp hcollatable with ⟨_, type, hfound, _⟩
        exact ⟨type, hfound⟩
    | kept _ hfound =>
        rw [htype, Node.isExpr, htag] at hfound
        exact hfound hexpr
  · intro hcollatable hslot
    cases hmarked with
    | set _ hset =>
        rw [hsame.tag] at hslot
        show (Node.exprCollation _).answer _ = _
        rw [Node.exprCollation_setInputCollation]
        exact Node.answer_exprCollation_setCollation hroom hslot hset
    | kept hnot _ => exact absurd (hiff.mpr hcollatable) hnot
  · intro hcollatable hslot
    cases hmarked with
    | set _ hset =>
        rw [hsame.tag, ← (Node.sameRules_setCollation catalog hset).tag] at hslot
        exact Node.inputCollation_setInputCollation _ collation hslot
    | kept hnot _ => exact absurd (hiff.mpr hcollatable) hnot
  · intro hnot
    cases hmarked with
    | set hcollatable _ => exact absurd (hiff.mp hcollatable) hnot
    | kept _ _ => rw [Node.children_rebuild hlength]

/-- What the children show, before and after, one after the other. -/
theorem shows_of_children
    (hchildren : List.Forall₂ (fun child new => Assigned catalog collation limit child depth new)
      node.children children) :
    exists lists after : List (List (Node × Nat)),
      List.Forall₂ (fun child shown => Charts limit depth (chartExprTree child) shown)
        node.children lists ∧
      List.Forall₂ (fun child shown => Charts limit depth (chartExprTree child) shown)
        children after ∧
      List.Forall₂ (Reassigned catalog collation limit) lists.flatten after.flatten := by
  generalize node.children = before at hchildren
  induction hchildren with
  | nil => exact ⟨[], [], .nil, .nil, .nil⟩
  | cons hchild _ ih =>
      rcases hchild.shows with ⟨shown, shownAfter, hshown, hafter, hrelated⟩
      rcases ih with ⟨lists, after, hlists, hrest, hflat⟩
      refine ⟨shown :: lists, shownAfter :: after, .cons hshown hlists, .cons hafter hrest, ?_⟩
      exact List.rel_append hrelated hflat

/-- A node whose children are settled is settled once it is marked. -/
theorem settled_of_marked {other : Node} (hroom : depth < limit)
    (hentry : result.tag ≠ .rangeTblEntry)
    (hchildren : forall child : Node, child ∈ result.children ->
      Ends limit (depth + 1) (child.assignCollation catalog collation)
        (fun answer => answer = child) fun _ => False)
    (hmarked : Marked catalog collation { depth, limit } other result) :
    Ends limit depth (result.assignCollation catalog collation) (fun answer => answer = result)
      fun _ => False := by
  let assign : Transformer Unit CollationError :=
    recurse.bounded (fun assign node =>
      transformChildren assign node >>= Node.assignHere catalog collation) (limit - depth)
  have hbelow : forall child : Node, child ∈ result.children ->
      Ends limit (depth + 1) (assign child) (fun answer => answer = child) fun _ => False := by
    intro child hmem state
    rw [runFrom_bounded _ hroom]
    exact hchildren child hmem state
  have hsame : Ends limit depth (transformChildren assign result) (fun answer => answer = result)
      fun _ => False := by
    rw [transformChildren_of_tag_ne hentry]
    apply Ends.guarded fun hcut => absurd hroom (Nat.not_lt_of_le hcut)
    intro _
    apply (Ends.mapM hbelow).map
    intro answers hanswers
    have hkept : answers = result.children := by
      rw [← List.forall₂_eq_eq_eq]
      exact hanswers.flip
    rw [hkept, Node.rebuild_children]
  apply hsame.bind
  rintro _ rfl state
  exact Or.inl ⟨_, (), runFrom_assignHere_of_marked hmarked, rfl⟩

/-- The pass treats a node as it should if it treats the children so. -/
theorem assigned_of_children (hroom : depth < limit) (hentry : node.tag ≠ .rangeTblEntry)
    (hchildren : List.Forall₂
      (fun child new => Assigned catalog collation limit child (depth + 1) new)
      node.children children)
    (hmarked : Marked catalog collation { depth, limit } (node.rebuild children) result) :
    Assigned catalog collation limit node depth result := by
  have hlength := hchildren.length_eq.symm
  have hrebuilt := Node.keepsType_rebuild (hchildren.imp fun _ _ hchild => hchild.keepsType)
  have hsame := hmarked.sameRules
  have hnew : result.children = children := hsame.children.trans (Node.children_rebuild hlength)
  have hresult : result.tag ≠ .rangeTblEntry := by
    rw [hsame.tag, Node.tag_rebuild]
    exact hentry
  rcases shows_of_children hchildren with ⟨lists, after, hlists, hafter, hflat⟩
  rw [← hnew] at hafter
  refine ⟨hrebuilt.trans hmarked.keepsType, ⟨_, _, charts_chartExprTree hroom hentry hlists,
    charts_chartExprTree hroom hresult hafter, ?_⟩, ?_⟩
  · exact .cons (reassigned_of_marked hroom hlength hrebuilt.type hmarked) hflat
  · apply settled_of_marked hroom hresult _ hmarked
    rw [hnew]
    exact forall_mem_of_forall₂ (hchildren.imp fun _ _ hchild => hchild.settled)

end

/-- The pass ends in a tree that it treats as it should, or the tree is to blame. -/
theorem ends_assignCollation (catalog : Catalog) (collation : Oid) (limit depth : Nat)
    (tree : Node) :
    Ends limit depth (tree.assignCollation catalog collation)
      (Assigned catalog collation limit tree depth) CollationError.IsTree := by
  apply Ends.recurse (fun _ _ => True) (Assigned catalog collation limit) _ trivial
  intro assign depth hcalls node _
  have hcut : limit <= depth ->
      CollationError.IsTree (.tree (.stackDepthExceeded (depth + 1) limit)) :=
    fun _ => ⟨_, rfl⟩
  by_cases hentry : node.tag = .rangeTblEntry
  · have hrefused : Ends limit depth (transformChildren assign node) (fun _ => False)
        CollationError.IsTree := by
      cases node with
      | rangeTblEntry entry => exact Ends.guarded hcut fun _ => ends_raise ⟨_, rfl⟩
      | _ => cases hentry
    exact hrefused.bind nofun
  · have hrebuilt : Ends limit depth (transformChildren assign node)
        (fun rebuilt => depth < limit ∧ exists children : List Node,
          List.Forall₂ (fun child new => Assigned catalog collation limit child (depth + 1) new)
            node.children children ∧ rebuilt = node.rebuild children)
        CollationError.IsTree := by
      rw [transformChildren_of_tag_ne hentry]
      apply Ends.guarded hcut
      intro hroom
      have heach := Ends.mapM fun child (_ : child ∈ node.children) =>
        hcalls child (depth + 1) (Nat.lt_succ_self depth) hroom trivial
      apply heach.map
      intro children hchildren
      exact ⟨hroom, children, hchildren, rfl⟩
    apply hrebuilt.bind
    rintro _ ⟨hroom, children, hchildren, rfl⟩
    apply (ends_assignHere _).mono
    intro result hmarked
    exact assigned_of_children hroom hentry hchildren hmarked

/-- The pass never puts a collation where the check refuses it.  If it succeeds, then a walk
through the expressions of the tree before and after shows the same kinds of the same types,
each with the collation in its slots if its type is collatable and with its own fields
otherwise, and the pass changes nothing when it is run again. -/
theorem assignCollation_marks_tree (catalog : Catalog) (collation : Oid) (tree : Node)
    (nesting : Nesting) :
    (forall (refused : Oid) (tag : Node.Tag) (type : Oid) (after : Nesting × Unit),
      runFrom (tree.assignCollation catalog collation) nesting () ≠
        (.error (.notCollatable refused tag type), after)) ∧
    (forall (result : Node) (after : Nesting × Unit),
      runFrom (tree.assignCollation catalog collation) nesting () = (.ok result, after) ->
        (exists shown shownAfter : List (Node × Nat),
          runFrom (chartExprTree tree) nesting [] = (.ok .proceed, nesting, shown) ∧
          runFrom (chartExprTree result) nesting [] = (.ok .proceed, nesting, shownAfter) ∧
          List.Forall₂ (Reassigned catalog collation nesting.limit) shown shownAfter) ∧
        runFrom (result.assignCollation catalog collation) nesting () =
          (.ok result, nesting, ())) := by
  have hends := ends_assignCollation catalog collation nesting.limit nesting.depth tree ()
  constructor
  · intro refused tag type after hrefused
    rcases hends with ⟨_, _, hrun, _⟩ | ⟨_, _, hrun, cause, rfl⟩
    · cases hrun.symm.trans hrefused
    · cases hrun.symm.trans hrefused
  · intro result after hresult
    rcases hends with ⟨_, _, hrun, hassigned⟩ | ⟨_, _, hrun, _⟩
    · cases hrun.symm.trans hresult
      rcases hassigned.shows with ⟨shown, shownAfter, hshown, hafter, hrelated⟩
      constructor
      · exact ⟨shown, shownAfter, hshown [], hafter [], hrelated⟩
      · rcases hassigned.settled () with ⟨_, _, hagain, rfl⟩ | ⟨_, _, _, hnever⟩
        · exact hagain
        · exact hnever.elim
    · cases hrun.symm.trans hresult

/-- `length(upper(name))`, with a collation on the texts. -/
def upperLength (collation : Oid) : Node :=
  .call 1317 BuiltinType.int4.toOid
    [.call 871 BuiltinType.text.toOid [.ofVar 1 2 BuiltinType.text.toOid (-1) collation 0]
      collation collation .explicitCall]
    Oid.invalid Collation.default .explicitCall

/-- The texts get the collation, and the length keeps its input collation. -/
theorem assignCollation_marks_tree_upperLength :
    runFrom ((upperLength Collation.default).assignCollation .builtin 950) (.start 4) () =
        (.ok (upperLength 950), .start 4, ()) ∧
      (exists shown shownAfter : List (Node × Nat),
        runFrom (chartExprTree (upperLength Collation.default)) (.start 4) [] =
            (.ok .proceed, .start 4, shown) ∧
          runFrom (chartExprTree (upperLength 950)) (.start 4) [] =
            (.ok .proceed, .start 4, shownAfter) ∧
          List.Forall₂ (Reassigned .builtin 950 4) shown shownAfter) ∧
      runFrom ((upperLength 950).assignCollation .builtin 950) (.start 4) () =
        (.ok (upperLength 950), .start 4, ()) := by
  have hrun : runFrom ((upperLength Collation.default).assignCollation .builtin 950) (.start 4)
      () = (.ok (upperLength 950), .start 4, ()) :=
    rfl
  rcases assignCollation_marks_tree .builtin 950 (upperLength Collation.default) (.start 4) with
    ⟨_, hmarks⟩
  exact ⟨hrun, hmarks _ _ hrun⟩

end QueryTree
