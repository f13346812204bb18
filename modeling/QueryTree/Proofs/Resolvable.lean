import QueryTree.Proofs.Coverage
import QueryTree.Proofs.Height
import QueryTree.Proofs.LocalTypes
import QueryTree.Proofs.Locations
import QueryTree.Proofs.RawWalks

/-!
# Walkable trees are resolvable

A lookup takes a level for every node that it asks, and it only asks nodes that a walk
gets to at the same depth or further down.  So a limit that leaves room for a walk over
a tree leaves room for every lookup on it.
-/

namespace QueryTree

open Traversal Step

/-!
# Room
-/

namespace Node

/-- Range-table entries stand in range tables and nowhere else. -/
structure EntriesInTables (node : Node) : Prop where
  root : node.tag ≠ .rangeTblEntry
  stored : forall inner child : Node, inner ∈ node.stored -> child ∈ inner.besidesRangeTable ->
    child.tag ≠ .rangeTblEntry

theorem EntriesInTables.of_besidesRangeTable {node child : Node} (hnode : node.EntriesInTables)
    (hchild : child ∈ node.besidesRangeTable) : child.EntriesInTables where
  root := hnode.stored node child node.mem_stored_self hchild
  stored := by
    intro inner other hinner
    apply hnode.stored
    exact mem_stored_of_mem_slots (mem_slots_of_mem_besidesRangeTable hchild) hinner

/-- Only range-table entries take no level. -/
theorem height_pos (scope : Scope) {node : Node} (hentry : node.tag ≠ .rangeTblEntry) :
    0 < node.height scope := by
  induction node using Node.byParts with
  | query q =>
      rw [height_query]
      omega
  | entry entry => exact absurd rfl hentry
  | plain node hplain =>
      rw [height_of_plain scope hplain]
      omega

/-- From this depth, a walk over the tree stays within the limit. -/
structure HasRoom (scope : Scope) (limit depth : Nat) (node : Node) : Prop where
  entries : node.EntriesInTables
  height_le : depth + node.height scope <= limit

namespace HasRoom

variable {scope : Scope} {limit depth : Nat} {node : Node}

theorem depth_lt (hroom : node.HasRoom scope limit depth) : depth < limit := by
  have hheight := hroom.height_le
  have hpos := height_pos scope hroom.entries.root
  omega

theorem mono {deeper : Nat} (hroom : node.HasRoom scope limit deeper) (hdepth : depth <= deeper) :
    node.HasRoom scope limit depth where
  entries := hroom.entries
  height_le := Nat.le_trans (Nat.add_le_add_right hdepth _) hroom.height_le

theorem of_mem_children {child : Node} (hroom : node.HasRoom scope limit depth)
    (hchild : child ∈ node.children) : child.HasRoom scope limit (depth + 1) := by
  induction node using Node.byParts with
  | query q => cases hchild
  | entry entry => cases hchild
  | plain node hplain =>
      constructor
      · apply hroom.entries.of_besidesRangeTable
        rw [besidesRangeTable_of_plain hplain]
        exact mem_slots_of_mem_children hplain hchild
      · have hheight := hroom.height_le
        rw [height_of_plain scope hplain] at hheight
        have hhighest : child.height scope <= highest (node.children.map (height scope)) :=
          le_highest (List.mem_map_of_mem hchild)
        omega

theorem of_mem_clauses {q : Query} {clause : Node}
    (hroom : (Node.query q).HasRoom scope limit depth) (hclause : clause ∈ q.clauses) :
    clause.HasRoom scope limit (depth + 1) := by
  constructor
  · exact hroom.entries.of_besidesRangeTable (mem_besidesRangeTable_of_mem_clauses hclause)
  · have hheight := hroom.height_le
    rw [height_query, List.append_assoc, highest_append] at hheight
    have hhighest : clause.height scope <= highest (q.clauses.map (height scope)) :=
      le_highest (List.mem_map_of_mem hclause)
    omega

theorem of_firstColumn {subselect expr : Node} (hroom : subselect.HasRoom scope limit depth)
    (hcolumn : subselect.firstColumn? = some expr) : expr.HasRoom scope limit (depth + 2) := by
  cases subselect with
  | query q =>
      rcases Option.bind_eq_some_iff.mp hcolumn with ⟨first, hfirst, hexpr⟩
      have hclause : first ∈ q.clauses := by
        simp [Query.clauses, List.mem_of_mem_head? hfirst]
      cases first with
      | targetEntry data target =>
          cases hexpr
          exact (hroom.of_mem_clauses hclause).of_mem_children List.mem_cons_self
      | _ => cases hexpr
  | _ => cases hcolumn

end HasRoom

/-- The nodes that a lookup may ask about a node: those below it, and for a sub-select the
expression of its first output column. -/
def sources (node : Node) : List Node :=
  node.children ++
    match node with
    | .subLink _ _ subselect => subselect.firstColumn?.toList
    | _ => []

theorem mem_sources_of_mem_children {node child : Node} (hchild : child ∈ node.children) :
    child ∈ node.sources :=
  List.mem_append_left _ hchild

theorem mem_sources_of_firstColumn {data : SubLink} {testExpr : Option Node}
    {subselect expr : Node} (hcolumn : subselect.firstColumn? = some expr) :
    expr ∈ (Node.subLink data testExpr subselect).sources := by
  apply List.mem_append_right
  show expr ∈ subselect.firstColumn?.toList
  rw [hcolumn]
  exact List.mem_singleton_self expr

/-- A limit that leaves room for a node leaves room for whatever a lookup asks about it. -/
theorem HasRoom.of_mem_sources {scope : Scope} {limit depth : Nat} {node source : Node}
    (hroom : node.HasRoom scope limit depth) (hsource : source ∈ node.sources) :
    source.HasRoom scope limit (depth + 1) := by
  rcases List.mem_append.mp hsource with hchild | hcolumn
  · exact hroom.of_mem_children hchild
  · cases node with
    | subLink data testExpr subselect =>
        have hsubselect : subselect.HasRoom scope limit (depth + 1) := by
          apply hroom.of_mem_children
          exact List.mem_append_right _ List.mem_cons_self
        have hexpr : subselect.firstColumn? = some source := by simpa using hcolumn
        exact (hsubselect.of_firstColumn hexpr).mono (by omega)
    | _ => cases hcolumn

end Node

/-- A walk that always goes on and succeeds leaves room for itself. -/
theorem Node.hasRoom_of_walkTree_ok {σ ε : Type} [OfTreeError ε] {scope : Scope} {node : Node}
    {nesting : Nesting} {state : σ} {control : Control} (hnode : node.EntriesInTables)
    (hwalk : (runFrom (walkTree (fun _ => pure .proceed : Visitor σ ε) scope node) nesting
      state).1 = .ok control) :
    node.HasRoom scope nesting.limit nesting.depth := by
  have hpasses := (notes_proceed.runFrom_walkTree.mp (Prod.ext hwalk rfl)).left
  have hpeak : peak (node.itinerary scope nesting.depth) <= nesting.limit := by
    refine (passes_iff_peak_le ?_).mp hpasses
    intro error hrefuse
    exact hpasses _ hrefuse
  have hmax : max nesting.depth (peak (node.itinerary scope nesting.depth)) =
      nesting.depth + node.height scope :=
    node.max_peak_itinerary nesting.depth
  have hpos := height_pos scope hnode.root
  exact ⟨hnode, by omega⟩

/-!
# Lookups
-/

section

variable {α β : Type}

/-- The failures that do not come from the limit. -/
def NotCutOff (error : TreeError) : Prop :=
  forall depth limit : Nat, error ≠ .stackDepthExceeded depth limit

/-- From this depth, the lookup answers or fails as stated. -/
def Resolves (fails : TreeError -> Prop) (limit depth : Nat) (lookup : Lookup α) : Prop :=
  Ends limit depth lookup (fun _ => True) fails

variable {fails : TreeError -> Prop} {limit depth : Nat}

theorem resolves_pure (answer : α) : Resolves fails limit depth (pure answer) :=
  ends_pure trivial

theorem Resolves.bind {first : Lookup α} {next : α -> Lookup β}
    (hfirst : Resolves fails limit depth first)
    (hnext : forall x : α, Resolves fails limit depth (next x)) :
    Resolves fails limit depth (first >>= next) :=
  Ends.bind hfirst fun x _ => hnext x

theorem Resolves.map {lookup : Lookup α} (hlookup : Resolves fails limit depth lookup)
    (f : α -> β) : Resolves fails limit depth (lookup >>= fun x => pure (f x)) :=
  Ends.map hlookup fun _ _ => trivial

/-- A rule that looks below itself only after a level is taken resolves, if there is room for
a level wherever it is used, and for what it asks one level down. -/
theorem resolves_recurse {rule : (α -> Lookup β) -> α -> Lookup β} (room : α -> Nat -> Prop)
    (hlevel : forall (x : α) (depth : Nat), room x depth -> depth < limit)
    (hrule : forall (visit : α -> Lookup β) (x : α) (depth : Nat), room x depth ->
      (forall y : α, room y (depth + 1) -> Resolves fails limit (depth + 1) (visit y)) ->
      Resolves fails limit (depth + 1) (rule visit x))
    {input : α} (hinput : room input depth) :
    Resolves fails limit depth (recurse (fun visit x => guarded (rule visit x)) input) := by
  apply Ends.recurse room (fun _ _ _ => True) _ hinput
  intro visit depth hvisit x hx
  have hlimit := hlevel x depth hx
  apply Ends.guarded
  · intro hcut
    exact absurd hlimit (Nat.not_lt_of_le hcut)
  · intro _
    apply hrule visit x depth hx
    intro y hy
    exact hvisit y (depth + 1) (Nat.lt_succ_self depth) hlimit hy

end

namespace Node

variable {limit depth : Nat} {node : Node}

/-- A node that a lookup has no rule for is refused whatever the limit is. -/
theorem resolves_refusal {α : Type} (tag : Tag) (operation : TreeError.Operation) :
    Resolves NotCutOff limit depth (raise (.unrecognizedNode tag operation) : Lookup α) := by
  apply ends_raise
  nofun

/-- The first output column of a sub-select is found and asked, or there is none. -/
theorem resolves_subLinkTarget {α : Type} {lookup : Node -> Lookup α} {data : SubLink}
    {testExpr : Option Node} {subselect : Node}
    (hbelow : forall source : Node, source ∈ (Node.subLink data testExpr subselect).sources ->
      Resolves NotCutOff limit depth (lookup source)) :
    Resolves NotCutOff limit depth (subLinkTarget subselect >>= lookup) := by
  have htarget : Ends limit depth (subLinkTarget subselect)
      (fun expr => subselect.firstColumn? = some expr) NotCutOff := by
    unfold subLinkTarget
    split
    · split
      · exact ends_pure rfl
      · apply ends_raise
        nofun
    · apply ends_raise
      nofun
  apply htarget.bind
  intro expr hexpr
  exact hbelow expr (mem_sources_of_firstColumn hexpr)

theorem resolves_typeWith {typeOf : Node -> Lookup Oid}
    (hbelow : forall source : Node, source ∈ node.sources ->
      Resolves NotCutOff limit depth (typeOf source))
    (catalog : Catalog) : Resolves NotCutOff limit depth (node.typeWith catalog typeOf) := by
  cases node with
  | subLink data testExpr subselect =>
      rw [typeWith]
      split
      · exact resolves_subLinkTarget hbelow
      · apply resolves_subLinkTarget
        intro source hsource
        apply Resolves.bind (hbelow source hsource)
        intro element
        split
        · exact resolves_pure _
        · apply ends_raise
          intro _depth _limit hcut
          cases hcut
      all_goals exact resolves_pure _
  | arrayRef data upperIndex lowerIndex expr assignExpr =>
      rw [typeWith]
      split
      · exact resolves_pure _
      · exact resolves_pure _
  | xmlExpr data namedArgs args =>
      rw [typeWith]
      split
      all_goals exact resolves_pure _
  | namedArgExpr | collateExpr | inferenceElem =>
      exact hbelow _ (mem_sources_of_mem_children List.mem_cons_self)
  | _ =>
      first
      | exact resolves_pure _
      | exact resolves_refusal _ _

section

variable {typeOf : Node -> Lookup Oid} {typmodOf : Node -> Lookup Int32}

theorem resolves_allAgree {arms : List Node}
    (htype : forall arm : Node, arm ∈ arms -> Resolves NotCutOff limit depth (typeOf arm))
    (htypmod : forall arm : Node, arm ∈ arms -> Resolves NotCutOff limit depth (typmodOf arm))
    (type : Oid) (typmod : Int32) :
    Resolves NotCutOff limit depth (allAgree typeOf typmodOf type typmod arms) := by
  induction arms with
  | nil => exact resolves_pure true
  | cons arm rest ih =>
      rw [List.forall_mem_cons] at htype htypmod
      rw [allAgree]
      apply Resolves.bind htype.left
      intro armType
      split
      · exact resolves_pure false
      · apply Resolves.bind htypmod.left
        intro armTypmod
        split
        · exact resolves_pure false
        · exact ih htype.right htypmod.right

theorem resolves_commonTypmod {arms : List Node}
    (htype : forall arm : Node, arm ∈ arms -> Resolves NotCutOff limit depth (typeOf arm))
    (htypmod : forall arm : Node, arm ∈ arms -> Resolves NotCutOff limit depth (typmodOf arm))
    (type : Oid) : Resolves NotCutOff limit depth (commonTypmod typeOf typmodOf type arms) := by
  cases arms with
  | nil => exact resolves_pure _
  | cons first rest =>
      rw [List.forall_mem_cons] at htype htypmod
      rw [commonTypmod]
      apply Resolves.bind htype.left
      intro firstType
      split
      · exact resolves_pure _
      · apply Resolves.bind htypmod.left
        intro typmod
        split
        · exact resolves_pure _
        · apply Resolves.bind (resolves_allAgree htype.right htypmod.right type typmod)
          intro agree
          split
          · exact resolves_pure typmod
          · exact resolves_pure _

theorem resolves_typmodWith
    (htype : forall child : Node, child ∈ node.children ->
      Resolves NotCutOff limit depth (typeOf child))
    (hbelow : forall source : Node, source ∈ node.sources ->
      Resolves NotCutOff limit depth (typmodOf source)) :
    Resolves NotCutOff limit depth (node.typmodWith typeOf typmodOf) := by
  have hchildren := fun child hchild => hbelow child (mem_sources_of_mem_children hchild)
  cases node with
  | nullIfExpr data args =>
      cases args with
      | nil => exact resolves_pure _
      | cons first rest => exact hchildren first List.mem_cons_self
  | subLink data testExpr subselect =>
      rw [typmodWith]
      split
      · exact resolves_subLinkTarget hbelow
      · exact resolves_subLinkTarget hbelow
      · exact resolves_pure _
  | caseExpr data arg whens otherwise =>
      cases otherwise with
      | none => exact resolves_pure _
      | some otherwise =>
          have harms : forall arm : Node, arm ∈ otherwise :: whens.map CaseWhen.result ->
              arm ∈ (Node.caseExpr data arg whens (some otherwise)).children := by
            intro arm harm
            rcases List.mem_cons.mp harm with rfl | hresult
            · exact List.mem_append_right _ List.mem_cons_self
            · rcases List.mem_map.mp hresult with ⟨branch, hbranch, rfl⟩
              apply List.mem_append_left
              apply List.mem_append_right
              apply List.mem_flatMap.mpr
              exact ⟨branch, hbranch, List.mem_cons_of_mem _ List.mem_cons_self⟩
          exact resolves_commonTypmod (fun arm harm => htype arm (harms arm harm))
            (fun arm harm => hchildren arm (harms arm harm)) data.caseType
  | arrayExpr | coalesceExpr | minMaxExpr => exact resolves_commonTypmod htype hchildren _
  | namedArgExpr | collateExpr | inferenceElem => exact hchildren _ List.mem_cons_self
  | _ =>
      first
      | exact resolves_pure _
      | exact resolves_refusal _ _

end

theorem resolves_collationWith {collationOf : Node -> Lookup Oid}
    (hbelow : forall source : Node, source ∈ node.sources ->
      Resolves NotCutOff limit depth (collationOf source)) :
    Resolves NotCutOff limit depth (node.collationWith collationOf) := by
  cases node with
  | subLink data testExpr subselect =>
      rw [collationWith]
      split
      · exact resolves_subLinkTarget hbelow
      · exact resolves_subLinkTarget hbelow
      · exact resolves_pure _
  | namedArgExpr | inferenceElem =>
      exact hbelow _ (mem_sources_of_mem_children List.mem_cons_self)
  | _ =>
      first
      | exact resolves_pure _
      | exact resolves_refusal _ _

theorem resolves_locationWith {locationOf : Node -> Lookup Location}
    (hbelow : forall child : Node, child ∈ node.children ->
      Resolves NotCutOff limit depth (locationOf child)) :
    Resolves NotCutOff limit depth (node.locationWith locationOf) := by
  have hends : Ends limit depth (node.locationWith locationOf)
      (Stands (fun _ => True) (node.tag ≠ .collateExpr) node.ownLocation) NotCutOff := by
    apply ends_locationWith fun _ _ => trivial
    intro child hstep
    exact Ends.mono (hbelow child hstep.right) fun _ _ _ _ => trivial
  exact hends.mono fun _ _ => trivial

/-!
# Trees with room
-/

variable {scope : Scope}

/-- A lookup by a rule for one node resolves, if the rule does as soon as its sources do. -/
theorem resolves_byRule {α : Type} {rule : (Node -> Lookup α) -> Node -> Lookup α}
    (hrule : forall (visit : Node -> Lookup α) (node : Node) (depth : Nat),
      node.HasRoom scope limit depth ->
      (forall source : Node, source ∈ node.sources ->
        Resolves NotCutOff limit (depth + 1) (visit source)) ->
      Resolves NotCutOff limit (depth + 1) (rule visit node))
    (hroom : node.HasRoom scope limit depth) :
    Resolves NotCutOff limit depth (recurse (fun visit x => guarded (rule visit x)) node) := by
  refine resolves_recurse (fun node depth => node.HasRoom scope limit depth) ?_ ?_ hroom
  · intro node depth hroom
    exact hroom.depth_lt
  · intro visit node depth hroom hbelow
    apply hrule visit node depth hroom
    intro source hsource
    exact hbelow source (hroom.of_mem_sources hsource)

theorem resolves_exprType (catalog : Catalog) (hroom : node.HasRoom scope limit depth) :
    Resolves NotCutOff limit depth (node.exprType catalog) :=
  resolves_byRule (fun _ _ _ _ hbelow => resolves_typeWith hbelow catalog) hroom

theorem resolves_exprTypmod (catalog : Catalog) (hroom : node.HasRoom scope limit depth) :
    Resolves NotCutOff limit depth (node.exprTypmod catalog) := by
  refine resolves_byRule ?_ hroom
  intro typmodOf node depth hroom hbelow
  -- types are looked up by a recursion of their own, which goes on from this level
  refine resolves_typmodWith ?_ hbelow
  intro child hchild
  exact resolves_exprType catalog (hroom.of_mem_children hchild)

theorem resolves_exprCollation (hroom : node.HasRoom scope limit depth) :
    Resolves NotCutOff limit depth node.exprCollation :=
  resolves_byRule (fun _ _ _ _ hbelow => resolves_collationWith hbelow) hroom

theorem resolves_exprLocation (hroom : node.HasRoom scope limit depth) :
    Resolves NotCutOff limit depth node.exprLocation := by
  refine resolves_byRule ?_ hroom
  intro locationOf node depth _ hbelow
  apply resolves_locationWith
  intro child hchild
  exact hbelow child (mem_sources_of_mem_children hchild)

theorem resolves_returnsSet (hroom : node.HasRoom scope limit depth) :
    Resolves NotCutOff limit depth node.returnsSet := by
  have hfind : Resolves NotCutOff limit depth node.findSetReturning := by
    apply Ends.recurse (fun node depth => node.HasRoom scope limit depth) (fun _ _ _ => True) _
      hroom
    intro visit depth hvisit node hroom
    split
    · exact ends_pure trivial
    split
    · exact ends_pure trivial
    · have hchildren : Ends limit (depth + 1) (visitAll visit node.children) (fun _ => True)
          NotCutOff := by
        apply Ends.visitAll
        intro child hchild
        exact hvisit child (depth + 1) (Nat.lt_succ_self depth) hroom.depth_lt
          (hroom.of_mem_children hchild)
      apply Ends.guarded
      · intro hcut
        exact absurd hroom.depth_lt (Nat.not_lt_of_le hcut)
      · intro _
        cases node with
        | rangeTblEntry entry => exact ends_raise nofun
        | _ => exact hchildren
  exact hfind.map fun control => decide (control = .stop)

theorem resolves_relabelToTypmod (catalog : Catalog) (typmod : Int32)
    (hroom : node.HasRoom scope limit depth) :
    Resolves NotCutOff limit depth (node.relabelToTypmod catalog typmod) := by
  apply Resolves.bind (resolves_exprType catalog hroom)
  intro type
  exact Resolves.map (resolves_exprCollation hroom) _

end Node

namespace RawNode

variable {limit depth : Nat} {node : RawNode}

/-- From this depth, every level that a walk over a raw tree takes is within the limit. -/
def HasRoom (limit depth : Nat) (node : RawNode) : Prop :=
  forall step : Step RawNode, step ∈ node.itinerary depth -> step.Passes limit

theorem HasRoom.depth_lt (hroom : node.HasRoom limit depth) : depth < limit := by
  have hlevel : .enter (depth + 1) ∈ node.itinerary depth := by
    rw [itinerary_eq]
    exact List.mem_cons_of_mem _ List.mem_cons_self
  exact hroom _ hlevel

theorem HasRoom.of_mem_children {child : RawNode} (hroom : node.HasRoom limit depth)
    (hchild : child ∈ node.children) : child.HasRoom limit (depth + 1) := by
  intro step hstep
  apply hroom
  rw [itinerary_eq]
  apply List.mem_cons_of_mem
  apply List.mem_cons_of_mem
  exact List.mem_flatMap.mpr ⟨child, hchild, hstep⟩

/-- A walk that always goes on and succeeds leaves room for itself. -/
theorem hasRoom_of_walkRawTree_ok {σ ε : Type} [OfTreeError ε] {nesting : Nesting} {state : σ}
    {control : Control}
    (hwalk : (runFrom (walkRawTree (fun _ => pure .proceed : RawVisitor σ ε) node) nesting
      state).1 = .ok control) :
    node.HasRoom nesting.limit nesting.depth := by
  rw [performs_walkRawTree notes_proceed.balanced node nesting state, endAt] at hwalk
  exact notes_proceed.passes_of_replay_ok hwalk

theorem resolves_locationWith {fails : TreeError -> Prop} {locationOf : RawNode -> Lookup Location}
    (hbelow : forall child : RawNode, child ∈ node.children ->
      Resolves fails limit depth (locationOf child)) :
    Resolves fails limit depth (node.locationWith locationOf) := by
  have hends : Ends limit depth (node.locationWith locationOf)
      (Stands (fun _ => True) (node.tag ≠ .collateClause ∧ node.tag ≠ .sortBy)
        node.ownLocation) fails := by
    apply ends_locationWith fun _ _ => trivial
    intro child hchild
    exact Ends.mono (hbelow child hchild) fun _ _ _ _ => trivial
  exact hends.mono fun _ _ => trivial

/-- With room for a walk, the location of a raw node is always found. -/
theorem resolves_exprLocation (hroom : node.HasRoom limit depth) :
    Resolves (fun _ => False) limit depth node.exprLocation := by
  refine resolves_recurse (fun node depth => node.HasRoom limit depth) ?_ ?_ hroom
  · intro node depth hroom
    exact hroom.depth_lt
  · intro locationOf node depth hroom hbelow
    apply resolves_locationWith
    intro child hchild
    exact hbelow child (hroom.of_mem_children hchild)

end RawNode

/-!
# Walks and lookups
-/

/-- The lookup does not fail because of the limit. -/
def Lookup.StaysWithin {α : Type} (nesting : Nesting) (lookup : Lookup α) : Prop :=
  forall depth limit : Nat, lookup.answer nesting ≠ .error (.stackDepthExceeded depth limit)

theorem Resolves.staysWithin {α : Type} {nesting : Nesting} {lookup : Lookup α}
    (hlookup : Resolves NotCutOff nesting.limit nesting.depth lookup) :
    lookup.StaysWithin nesting := by
  intro depth limit hanswer
  rw [Lookup.answer] at hanswer
  rcases hlookup () with ⟨x, after, hrun, _⟩ | ⟨error, after, hrun, herror⟩
  · rw [hrun] at hanswer
    cases hanswer
  · rw [hrun] at hanswer
    cases hanswer
    exact herror depth limit rfl

/-- If a walk that always goes on succeeds, then no lookup on the same tree from the same
nesting fails because of the limit, and the location of a raw node is found. -/
theorem walkable_resolvable {σ ε : Type} [OfTreeError ε] (scope : Scope) (catalog : Catalog)
    (nesting : Nesting) (state : σ) :
    (forall (node : Node) (control : Control) (typmod : Int32), node.EntriesInTables ->
      (runFrom (walkTree (fun _ => pure .proceed : Visitor σ ε) scope node) nesting state).1 =
        .ok control ->
      (node.exprType catalog).StaysWithin nesting ∧
        (node.exprTypmod catalog).StaysWithin nesting ∧
        node.exprCollation.StaysWithin nesting ∧
        node.exprLocation.StaysWithin nesting ∧
        node.returnsSet.StaysWithin nesting ∧
        (node.relabelToTypmod catalog typmod).StaysWithin nesting) ∧
      forall (raw : RawNode) (control : Control),
        (runFrom (walkRawTree (fun _ => pure .proceed : RawVisitor σ ε) raw) nesting state).1 =
          .ok control ->
        exists location : Location, raw.exprLocation.answer nesting = .ok location := by
  constructor
  · intro node control typmod hnode hwalk
    have hroom := Node.hasRoom_of_walkTree_ok hnode hwalk
    exact ⟨(Node.resolves_exprType catalog hroom).staysWithin,
      (Node.resolves_exprTypmod catalog hroom).staysWithin,
      (Node.resolves_exprCollation hroom).staysWithin,
      (Node.resolves_exprLocation hroom).staysWithin,
      (Node.resolves_returnsSet hroom).staysWithin,
      (Node.resolves_relabelToTypmod catalog typmod hroom).staysWithin⟩
  · intro raw control hwalk
    rw [Lookup.answer]
    rcases RawNode.resolves_exprLocation (RawNode.hasRoom_of_walkRawTree_ok hwalk) () with
      ⟨location, after, hrun, _⟩ | ⟨error, after, _, hnever⟩
    · rw [hrun]
      exact ⟨location, rfl⟩
    · cases hnever

theorem Node.EntriesInTables.of_slots {node : Node} (hroot : node.tag ≠ .rangeTblEntry)
    (hslots : forall child : Node, child ∈ node.slots -> child.EntriesInTables) :
    node.EntriesInTables where
  root := hroot
  stored := by
    intro inner child hinner hchild
    rw [stored_eq] at hinner
    rcases List.mem_cons.mp hinner with rfl | hbelow
    · exact (hslots child (mem_slots_of_mem_besidesRangeTable hchild)).root
    · rcases List.mem_flatMap.mp hbelow with ⟨part, hpart, hstored⟩
      exact (hslots part hpart).stored inner child hstored hchild

theorem Node.entriesInTables_arrayOfSelect (value : Datum) :
    (arrayOfSelect value).EntriesInTables := by
  have hcolumns : forall column : Node,
      (Node.query { Query.bare with targetList := [column] }).slots = [column] := by
    intro column
    simp [slots, Query.slots, Query.bare]
  -- the named argument, the sub-select, its query and the column hold one node each
  refine .of_slots (show Tag.namedArgExpr ≠ _ by decide) (List.forall_mem_singleton.mpr ?_)
  refine .of_slots (show Tag.subLink ≠ _ by decide) (List.forall_mem_singleton.mpr ?_)
  refine .of_slots (show Tag.query ≠ _ by decide) ?_
  rw [hcolumns, List.forall_mem_singleton]
  refine .of_slots (show Tag.targetEntry ≠ _ by decide) (List.forall_mem_singleton.mpr ?_)
  exact .of_slots (show Tag.const ≠ _ by decide) (List.forall_mem_nil _)

/-- Five levels are just enough for a walk over `arrayOfSelect`, and so for its type, as
three are for `columnCast`. -/
theorem walkable_resolvable_arrayOfSelect :
    (arrayOfSelect (.int4 1)).EntriesInTables ∧
      (runFrom (walkTree (fun _ => pure .proceed : Visitor Unit TreeError) .everything
        (arrayOfSelect (.int4 1))) (.start 5) ()).1 = .ok .proceed ∧
      ((arrayOfSelect (.int4 1)).exprType .builtin).StaysWithin (.start 5) ∧
      exists location : Location,
        RawNode.columnCast.exprLocation.answer (.start 3) = .ok location := by
  have hentries := Node.entriesInTables_arrayOfSelect (.int4 1)
  have hwalk : (runFrom (walkTree (fun _ => pure .proceed : Visitor Unit TreeError) .everything
      (arrayOfSelect (.int4 1))) (.start 5) ()).1 = .ok .proceed :=
    rfl
  have hraw : (runFrom (walkRawTree (fun _ => pure .proceed : RawVisitor Unit TreeError)
      RawNode.columnCast) (.start 3) ()).1 = .ok .proceed :=
    rfl
  have htree := walkable_resolvable (ε := TreeError) .everything .builtin (.start 5) ()
  have hrawTree := walkable_resolvable (ε := TreeError) .everything .builtin (.start 3) ()
  exact ⟨hentries, hwalk, (htree.left _ _ (-1) hentries hwalk).left, hrawTree.right _ _ hraw⟩

end QueryTree
