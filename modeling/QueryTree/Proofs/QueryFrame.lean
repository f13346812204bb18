import Mathlib.Data.List.Forall2
import QueryTree.Proofs.Height
import QueryTree.Proofs.Lockstep
import QueryTree.Proofs.Transcripts

/-!
# What a transformation leaves alone

A transformation of a query asks about what a walk shows of the query, and puts the
answers there.  Everything else keeps its value: the marks and the clauses that refer to
output columns, the parts that the scope leaves out, and the length of every list.  An
entry of a range table can only be replaced by an entry, and anything else ends the
transformation on the spot.
-/

namespace QueryTree

open Traversal

/-!
# Frames
-/

/-- The same query, but for the contents of its clauses and for its range table and `WITH`
list. -/
structure Query.SameFrame (q other : Query) : Prop where
  header : other.header = q.header
  groupClause : other.groupClause = q.groupClause
  windowClause : other.windowClause = q.windowClause
  distinctClause : other.distinctClause = q.distinctClause
  sortClause : other.sortClause = q.sortClause
  targetList : other.targetList.length = q.targetList.length
  withCheckOptions : other.withCheckOptions.length = q.withCheckOptions.length
  returningList : other.returningList.length = q.returningList.length
  onConflict : other.onConflict.isSome = q.onConflict.isSome
  jointree : other.jointree.isSome = q.jointree.isSome
  setOperations : other.setOperations.isSome = q.setOperations.isSome
  havingQual : other.havingQual.isSome = q.havingQual.isSome
  limitOffset : other.limitOffset.isSome = q.limitOffset.isSome
  limitCount : other.limitCount.isSome = q.limitCount.isSome

/-- The same kind of entry, but for what the scope covers of it. -/
inductive RteKind.SameFrame (scope : Scope) : RteKind -> RteKind -> Prop where
  | relation (relId : Oid) (relKind : Char) {tablesample other : Option Node} :
      other.isSome = tablesample.isSome ->
        SameFrame scope (.relation relId relKind tablesample) (.relation relId relKind other)
  | subquery (securityBarrier : Bool) {inner other : Node} :
      (scope.skipSubqueries = true -> other = inner) ->
        SameFrame scope (.subquery inner securityBarrier) (.subquery other securityBarrier)
  | join (joinType : JoinType) {aliasVars others : List Node} :
      others.length = aliasVars.length -> (scope.skipJoinAliases = true -> others = aliasVars) ->
        SameFrame scope (.join joinType aliasVars) (.join joinType others)
  | function (ordinality : Bool) {functions others : List Node} :
      others.length = functions.length ->
        SameFrame scope (.function functions ordinality) (.function others ordinality)
  | values (collations : List Oid) {rows others : List Node} :
      others.length = rows.length ->
        SameFrame scope (.values rows collations) (.values others collations)
  | cte (reference : CteReference) : SameFrame scope (.cte reference) (.cte reference)

/-- The same entry, but for what the scope covers of it. -/
structure RangeTblEntry.SameFrame (scope : Scope) (entry other : RangeTblEntry) : Prop where
  kind : entry.kind.SameFrame scope other.kind
  header : other.header = entry.header
  securityQuals : other.securityQuals.length = entry.securityQuals.length

/-- Two entries that are the same, but for what the scope covers of them. -/
def Node.SameEntry (scope : Scope) (member other : Node) : Prop :=
  exists entry new : RangeTblEntry,
    member = .rangeTblEntry entry ∧ other = .rangeTblEntry new ∧ entry.SameFrame scope new

open Node.Refill in
theorem Query.sameFrame_replaced {q : Query} {supply : List Node}
    (hlength : supply.length = q.clauses.length) (rtable cteList : List Node) :
    q.SameFrame { q.withClauses supply with rtable, cteList } := by
  simp only [clauses, List.length_append] at hlength
  constructor
  case targetList | withCheckOptions | returningList =>
    simp only [withClauses, refillClauses, bind_apply, pure_apply, many_apply, opt_rest,
      List.drop_drop, List.length_take, List.length_drop]
    omega
  case onConflict | jointree | setOperations | havingQual | limitOffset | limitCount =>
    exact isSome_opt _ _
  all_goals rfl

open Node.Refill in
theorem RteKind.sameFrame_refill (scope : Scope) (kind : RteKind) {supply : List Node}
    (hlength : (kind.contents scope).length <= supply.length) :
    kind.SameFrame scope (kind.refill scope supply).1 := by
  cases kind with
  | relation relId relKind tablesample =>
      exact .relation relId relKind (isSome_opt tablesample supply)
  | subquery inner securityBarrier =>
      rw [refill]
      split
      · exact .subquery securityBarrier fun _ => rfl
      · rename_i hskip
        exact .subquery securityBarrier fun hskipped => absurd hskipped hskip
  | join joinType aliasVars =>
      rw [contents] at hlength
      rw [refill]
      split
      · exact .join joinType rfl fun _ => rfl
      · rename_i hskip
        rw [if_neg hskip] at hlength
        exact .join joinType (List.length_take_of_le hlength)
          fun hskipped => absurd hskipped hskip
  | function functions ordinality => exact .function ordinality (List.length_take_of_le hlength)
  | values rows collations => exact .values collations (List.length_take_of_le hlength)
  | cte reference => exact .cte reference

open Node.Refill in
theorem RangeTblEntry.sameFrame_withContents {scope : Scope} {entry : RangeTblEntry}
    {supply : List Node} (hlength : supply.length = (entry.contents scope).length) :
    entry.SameFrame scope (entry.withContents scope supply) := by
  rw [contents, List.length_append] at hlength
  have hkind : (entry.kind.contents scope).length <= supply.length := by omega
  refine ⟨RteKind.sameFrame_refill scope entry.kind hkind, rfl, ?_⟩
  simp only [withContents, refill, bind_apply, pure_apply, many_apply,
    (RteKind.contents_refill scope entry.kind hkind).right, List.length_take, List.length_drop]
  omega

/-!
# The calls of a transformation
-/

variable {κ σ ε : Type} [OfTreeError ε]

/-- What stands in the place of an entry has to be one. -/
def Node.asEntry : Node -> Protocol κ ε RangeTblEntry
  | .rangeTblEntry entry => .ends (.ok entry)
  | node =>
      .ends (.error (OfTreeError.ofTreeError (.unrecognizedNode node.tag .transformRangeTable)))

theorem Node.asEntry_of_tag_ne {node : Node} (hentry : node.tag ≠ .rangeTblEntry) :
    (node.asEntry : Protocol κ ε RangeTblEntry) =
      .ends (.error
        (OfTreeError.ofTreeError (.unrecognizedNode node.tag .transformRangeTable))) := by
  cases node with
  | rangeTblEntry entry => exact absurd rfl hentry
  | _ => rfl

/-- The calls for one member of a range table. -/
def Node.entryCalls (scope : Scope) (member : Node) : Protocol (Node × Except ε Node) ε Node :=
  .guarded
    (.andThen (if scope.showEntries then .asks member else .ends (.ok member)) fun shown =>
      .andThen shown.asEntry fun entry =>
        .andThen (.each .asks (entry.contents scope)) fun contents =>
          .ends (.ok (.rangeTblEntry (entry.withContents scope contents))))

/-- The calls for a range table. -/
def Query.tableCalls (scope : Scope) (q : Query) :
    Protocol (Node × Except ε Node) ε (List Node) :=
  if scope.skipRangeTable then .ends (.ok q.rtable) else .each (Node.entryCalls scope) q.rtable

/-- The calls for a `WITH` list. -/
def Query.cteCalls (scope : Scope) (q : Query) : Protocol (Node × Except ε Node) ε (List Node) :=
  if scope.skipCtes then .ends (.ok q.cteList) else .each .asks q.cteList

/-- The calls for a query: its clauses, its range table, its `WITH` list. -/
def Query.calls (scope : Scope) (q : Query) : Protocol (Node × Except ε Node) ε Query :=
  .guarded
    (.andThen (.each .asks q.clauses) fun clauses =>
      .andThen (q.tableCalls scope) fun rtable =>
        .andThen (q.cteCalls scope) fun cteList =>
          .ends (.ok { q.withClauses clauses with rtable, cteList }))

theorem transcribes_transformEntry (transform : Transformer σ ε) (scope : Scope)
    (member : Node) :
    Transcribes (transformEntry transform scope member)
      (transformEntry (noting transform) scope member) (member.entryCalls scope) := by
  have hshown : Transcribes (if scope.showEntries then transform member else pure member)
      (if scope.showEntries then noting transform member else pure member)
      (if scope.showEntries then .asks member else .ends (.ok member)) := by
    split
    · exact transcribes_noting transform member
    · exact transcribes_pure member
  have hexpect (shown : Node) : Transcribes
      (expectEntry .transformRangeTable shown : Traversal σ ε RangeTblEntry)
      (expectEntry .transformRangeTable shown :
        Traversal (σ × List (Node × Except ε Node)) ε RangeTblEntry) shown.asEntry := by
    cases shown with
    | rangeTblEntry entry => exact transcribes_pure entry
    | _ => exact transcribes_raise _
  rw [transformEntry_eq, transformEntry_eq]
  apply Transcribes.guarded
  apply Transcribes.bind hshown
  intro shown
  apply Transcribes.bind (hexpect shown)
  intro entry
  apply Transcribes.bind (Transcribes.mapM (transcribes_noting transform) (entry.contents scope))
  intro contents
  exact transcribes_pure _

theorem transcribes_transformQuery (transform : Transformer σ ε) (scope : Scope) (q : Query) :
    Transcribes (transformQuery transform scope q) (transformQuery (noting transform) scope q)
      (q.calls scope) := by
  have htable : Transcribes
      (if scope.skipRangeTable then pure q.rtable
        else transformRangeTable transform scope q.rtable)
      (if scope.skipRangeTable then pure q.rtable
        else transformRangeTable (noting transform) scope q.rtable)
      (q.tableCalls scope) := by
    unfold Query.tableCalls
    split
    · exact transcribes_pure q.rtable
    · exact Transcribes.mapM (transcribes_transformEntry transform scope) q.rtable
  have hctes : Transcribes
      (if scope.skipCtes then pure q.cteList else q.cteList.mapM transform)
      (if scope.skipCtes then pure q.cteList else q.cteList.mapM (noting transform))
      (q.cteCalls scope) := by
    unfold Query.cteCalls
    split
    · exact transcribes_pure q.cteList
    · exact Transcribes.mapM (transcribes_noting transform) q.cteList
  rw [transformQuery_eq, transformQuery_eq]
  apply Transcribes.guarded
  apply Transcribes.bind (Transcribes.mapM (transcribes_noting transform) q.clauses)
  intro clauses
  apply Transcribes.bind htable
  intro rtable
  apply Transcribes.bind hctes
  intro cteList
  exact transcribes_pure _

/-!
# Calls that are all answered
-/

theorem Node.entryCalls_ok {scope : Scope} {member answer : Node}
    {calls : List (Node × Except ε Node)} (hcalls : member.entryCalls scope (.ok answer) calls) :
    exists (entry : RangeTblEntry) (contents : List Node) (front : List (Node × Except ε Node)),
      (if scope.showEntries then front = [(member, .ok (.rangeTblEntry entry))]
        else member = .rangeTblEntry entry ∧ front = []) ∧
      contents.length = (entry.contents scope).length ∧
      calls = front ++ (entry.contents scope).zip (contents.map .ok) ∧
      answer = .rangeTblEntry (entry.withContents scope contents) := by
  rcases hcalls with hcalls | ⟨⟨_, herror⟩, _⟩
  · rcases hcalls with _ | ⟨hshown, hmore⟩
    rename_i shown front _
    rcases hmore with _ | ⟨hentry, hmore⟩
    rename_i entry _ _
    rcases hmore with _ | ⟨hcontents, hend⟩
    rename_i contents _ _
    rcases Protocol.each_asks_ok hcontents with ⟨hlength, rfl⟩
    rcases hend with ⟨hanswer, rfl⟩
    cases hanswer
    cases shown with
    | rangeTblEntry other =>
        rcases hentry with ⟨hsame, rfl⟩
        cases hsame
        refine ⟨entry, contents, front, ?_, hlength, by rw [List.append_nil, List.nil_append], rfl⟩
        revert hshown
        split
        · exact id
        · rintro ⟨hshown, rfl⟩
          cases hshown
          exact ⟨rfl, rfl⟩
    | _ => cases hentry.left
  · cases herror

theorem Query.calls_ok {scope : Scope} {q answer : Query} {calls : List (Node × Except ε Node)}
    (hcalls : q.calls scope (.ok answer) calls) :
    exists (clauses rtable cteList : List Node)
      (clauseCalls tableCalls cteCalls : List (Node × Except ε Node)),
      Protocol.each .asks q.clauses (.ok clauses) clauseCalls ∧
      q.tableCalls scope (.ok rtable) tableCalls ∧
      q.cteCalls scope (.ok cteList) cteCalls ∧
      calls = clauseCalls ++ (tableCalls ++ cteCalls) ∧
      answer = { q.withClauses clauses with rtable, cteList } := by
  rcases hcalls with hcalls | ⟨⟨_, herror⟩, _⟩
  · rcases hcalls with _ | ⟨hclauses, hmore⟩
    rcases hmore with _ | ⟨htable, hmore⟩
    rcases hmore with _ | ⟨hctes, hend⟩
    rcases hend with ⟨hanswer, rfl⟩
    cases hanswer
    rw [List.append_nil]
    exact ⟨_, _, _, _, _, _, hclauses, htable, hctes, rfl, rfl⟩
  · cases herror

theorem Node.tag_of_entryCalls {scope : Scope} {member answer : Node}
    {calls : List (Node × Except ε Node)} (hcalls : member.entryCalls scope (.ok answer) calls) :
    answer.tag = .rangeTblEntry := by
  rcases Node.entryCalls_ok hcalls with ⟨entry, contents, _, _, _, _, rfl⟩
  rfl

theorem Query.tableCalls_ok {scope : Scope} {q : Query} {rtable : List Node}
    {calls : List (Node × Except ε Node)} (hcalls : q.tableCalls scope (.ok rtable) calls) :
    (scope.skipRangeTable = true -> rtable = q.rtable) ∧
      rtable.length = q.rtable.length ∧
      (scope.skipRangeTable = false ->
        forall member : Node, member ∈ rtable -> member.tag = .rangeTblEntry) := by
  unfold tableCalls at hcalls
  split at hcalls
  · rename_i hskip
    cases hcalls.left
    exact ⟨fun _ => rfl, rfl, fun hcovered => absurd (hskip.symm.trans hcovered) nofun⟩
  · rename_i hskip
    refine ⟨fun hskipped => absurd hskipped hskip, Protocol.length_of_each hcalls, fun _ => ?_⟩
    exact Protocol.forall_of_each (fun _ _ _ => Node.tag_of_entryCalls) hcalls

omit [OfTreeError ε] in
theorem Query.cteCalls_ok {scope : Scope} {q : Query} {cteList : List Node}
    {calls : List (Node × Except ε Node)} (hcalls : q.cteCalls scope (.ok cteList) calls) :
    (scope.skipCtes = true -> cteList = q.cteList) ∧
      cteList.length = q.cteList.length ∧
      calls.map Prod.snd = (if scope.skipCtes then [] else cteList).map .ok := by
  unfold cteCalls at hcalls
  split at hcalls
  · rename_i hskip
    rcases hcalls with ⟨hctes, rfl⟩
    cases hctes
    rw [if_pos hskip]
    exact ⟨fun _ => rfl, rfl, rfl⟩
  · rename_i hskip
    rw [if_neg hskip]
    exact ⟨fun hskipped => absurd hskipped hskip, Protocol.length_of_each hcalls,
      Protocol.map_snd_of_each_asks hcalls⟩

/-- Where entries are not shown, they are the same entries, and hold the answers. -/
theorem entries_of_calls {scope : Scope} (hhidden : scope.showEntries = false)
    {rtable answers : List Node} {calls : List (Node × Except ε Node)}
    (hcalls : Protocol.each (Node.entryCalls scope) rtable (.ok answers) calls) :
    List.Forall₂ (Node.SameEntry scope) rtable answers ∧
      calls.map Prod.snd = (answers.flatMap (Node.entryContents scope)).map .ok := by
  induction rtable generalizing answers calls with
  | nil =>
      rcases hcalls with ⟨hanswers, rfl⟩
      cases hanswers
      exact ⟨.nil, rfl⟩
  | cons member rest ih =>
      rcases hcalls with _ | ⟨hmember, hmore⟩
      rcases hmore with _ | ⟨hrest, hend, rfl⟩
      cases hend
      rcases ih hrest with ⟨hsame, hcontents⟩
      rcases Node.entryCalls_ok hmember with ⟨entry, contents, front, hfront, hlength, rfl, rfl⟩
      rw [hhidden] at hfront
      rcases hfront with ⟨rfl, rfl⟩
      constructor
      · exact .cons ⟨entry, _, rfl, rfl, RangeTblEntry.sameFrame_withContents hlength⟩ hsame
      · rw [List.nil_append, List.append_nil, List.map_append, hcontents,
          Protocol.map_snd_zip_ok hlength, List.flatMap_cons, List.map_append, Node.entryContents,
          RangeTblEntry.contents_withContents hlength]

theorem Query.tableCalls_hidden {scope : Scope} (hhidden : scope.showEntries = false) {q : Query}
    {rtable : List Node} {calls : List (Node × Except ε Node)}
    (hcalls : q.tableCalls scope (.ok rtable) calls) :
    (scope.skipRangeTable = false -> List.Forall₂ (Node.SameEntry scope) q.rtable rtable) ∧
      calls.map Prod.snd =
        (if scope.skipRangeTable then [] else rtable.flatMap (Node.entryContents scope)).map
          .ok := by
  unfold tableCalls at hcalls
  split at hcalls
  · rename_i hskip
    rcases hcalls with ⟨_, rfl⟩
    rw [if_pos hskip]
    exact ⟨fun hcovered => absurd (hskip.symm.trans hcovered) nofun, rfl⟩
  · rename_i hskip
    rcases entries_of_calls hhidden hcalls with ⟨hsame, hcontents⟩
    rw [if_neg hskip]
    exact ⟨fun _ => hsame, hcontents⟩

/-!
# An answer that is no entry
-/

/-- The calls for one member of a range table that is shown, if all of them are answered and
the member is replaced by an entry. -/
def Node.EntryAnswered (scope : Scope) (member : Node) (calls : List (Node × Except ε Node)) :
    Prop :=
  exists (entry : RangeTblEntry) (contents : List Node),
    contents.length = (entry.contents scope).length ∧
      calls = (member, .ok (.rangeTblEntry entry)) ::
        (entry.contents scope).zip (contents.map .ok)

variable {scope : Scope}

theorem Node.EntryAnswered.pins (hshow : scope.showEntries = true) {member : Node}
    {calls : List (Node × Except ε Node)} (hanswered : member.EntryAnswered scope calls) :
    exists answer : Node, Protocol.Pins (member.entryCalls scope) calls (.ok answer) := by
  rcases hanswered with ⟨entry, contents, hlength, rfl⟩
  refine ⟨.rangeTblEntry (entry.withContents scope contents), ?_⟩
  rw [entryCalls, hshow]
  apply Protocol.Pins.guarded _ (List.cons_ne_nil _ _)
  apply (Protocol.pins_asks member _).andThen
  apply (Protocol.pins_ends (.ok entry)).andThen
  exact (Protocol.pins_each_asks hlength).map fun contents =>
    Node.rangeTblEntry (entry.withContents scope contents)

theorem pins_entryCalls_of_tag_ne (hshow : scope.showEntries = true) (member : Node)
    {reply : Node} (hreply : reply.tag ≠ .rangeTblEntry) :
    Protocol.Pins (member.entryCalls scope : Protocol (Node × Except ε Node) ε Node)
      [(member, .ok reply)]
      (.error (OfTreeError.ofTreeError (.unrecognizedNode reply.tag .transformRangeTable))) := by
  rw [Node.entryCalls, hshow]
  apply Protocol.Pins.guarded _ (List.cons_ne_nil _ _)
  apply (Protocol.pins_asks member _).andThen
  rw [Node.asEntry_of_tag_ne hreply]
  exact (Protocol.pins_ends _).failed

theorem pins_tableCalls_of_tag_ne (hshow : scope.showEntries = true) {before : List Node}
    {entries : List (List (Node × Except ε Node))}
    (hbefore : List.Forall₂ (Node.EntryAnswered scope) before entries) (member : Node)
    (rest : List Node) {reply : Node} (hreply : reply.tag ≠ .rangeTblEntry) :
    Protocol.Pins (.each (Node.entryCalls scope) (before ++ member :: rest))
      (entries.flatten ++ [(member, .ok reply)])
      (.error (OfTreeError.ofTreeError (.unrecognizedNode reply.tag .transformRangeTable))) := by
  induction hbefore with
  | nil => exact (pins_entryCalls_of_tag_ne hshow member hreply).failed
  | cons hanswered _hbefore ih =>
      -- an entry that is answered in full is left behind, with all of its calls
      rcases hanswered.pins hshow with ⟨answer, hpins⟩
      rw [List.flatten_cons, List.append_assoc]
      exact hpins.each_failed ih

theorem pins_calls_of_tag_ne (hshow : scope.showEntries = true)
    (htable : scope.skipRangeTable = false) {q : Query} {clauses : List Node}
    (hclauses : clauses.length = q.clauses.length) {before : List Node}
    {entries : List (List (Node × Except ε Node))}
    (hbefore : List.Forall₂ (Node.EntryAnswered scope) before entries) {member : Node}
    {rest : List Node} (hrtable : q.rtable = before ++ member :: rest) {reply : Node}
    (hreply : reply.tag ≠ .rangeTblEntry) :
    Protocol.Pins (q.calls scope)
      (q.clauses.zip (clauses.map .ok) ++ (entries.flatten ++ [(member, .ok reply)]))
      (.error (OfTreeError.ofTreeError (.unrecognizedNode reply.tag .transformRangeTable))) := by
  rw [Query.calls]
  apply Protocol.Pins.guarded
  · apply (Protocol.pins_each_asks hclauses).andThen
    rw [Query.tableCalls, htable, hrtable]
    exact (pins_tableCalls_of_tag_ne hshow hbefore member rest hreply).failed
  · simp

/-!
# What a walk shows afterwards
-/

/-- The levels that a walk takes for the query itself are there: one, and another one for a
range table that is not empty. -/
def Query.Fits (scope : Scope) (q : Query) (nesting : Nesting) : Prop :=
  nesting.depth + 1 <= nesting.limit ∧
    (scope.skipRangeTable = false -> q.rtable ≠ [] -> nesting.depth + 2 <= nesting.limit)

theorem performs_entryPlan {callback : Visitor σ ε}
    (hcallback : forall node : Node, (callback node).Balanced) (member : Node)
    (nesting : Nesting) :
    Performs callback (member.entryPlan scope nesting.depth) nesting
      (walkEntry callback scope member) := by
  cases member with
  | rangeTblEntry entry =>
      rw [Node.entryPlan, walkEntry_rangeTblEntry]
      apply Performs.guarded
      intro _hlimit
      apply Performs.andThen
      · split
        · exact performs_callback hcallback _
        · exact performs_proceed
      · exact Performs.callbacks hcallback _ _
  | _ =>
      apply Performs.guarded
      intro _hlimit
      exact performs_raise _

/-- A visitor that does not go further down is shown the plan of a query. -/
theorem performs_queryPlan {callback : Visitor σ ε}
    (hcallback : forall node : Node, (callback node).Balanced) (q : Query) (nesting : Nesting) :
    Performs callback (q.plan scope nesting.depth) nesting (walkQuery callback scope q) := by
  apply Performs.guarded
  intro _hlimit
  apply Performs.andThen (Performs.callbacks hcallback _ _)
  apply Performs.andThen
  · split
    · exact performs_proceed
    · apply Performs.visitAll
      intro member _hmember
      exact performs_entryPlan hcallback member _
  · split
    · exact performs_proceed
    · exact Performs.callbacks hcallback _ _

theorem passes_plan {q : Query} {nesting : Nesting} (hfits : q.Fits scope nesting)
    (htable : scope.skipRangeTable = false ->
      forall member : Node, member ∈ q.rtable -> member.tag = .rangeTblEntry)
    {step : Step Node} (hstep : step ∈ q.plan scope nesting.depth) : step.Passes nesting.limit := by
  rw [Query.plan, List.mem_cons, List.mem_append, List.mem_append] at hstep
  rcases hstep with rfl | hclauses | hmembers | hctes
  · exact hfits.left
  · exact Step.passes_toEach hclauses
  · split at hmembers
    · cases hmembers
    · rename_i hskip
      have hcovered : scope.skipRangeTable = false := Bool.eq_false_iff.mpr hskip
      rcases List.mem_flatMap.mp hmembers with ⟨member, hmember, hplan⟩
      have htag := htable hcovered member hmember
      cases member with
      | rangeTblEntry entry =>
          rw [Node.entryPlan, List.mem_cons, List.mem_append] at hplan
          rcases hplan with rfl | hself | hcontents
          · exact hfits.right hcovered (List.ne_nil_of_mem hmember)
          · split at hself
            · cases List.mem_singleton.mp hself
              exact trivial
            · cases hself
          · exact Step.passes_toEach hcontents
      | _ => cases htag
  · split at hctes
    · cases hctes
    · exact Step.passes_toEach hctes

theorem map_fst_shown_plan (hhidden : scope.showEntries = false) (q : Query) (depth : Nat) :
    (Step.shown (q.plan scope depth)).map Prod.fst =
      q.clauses ++
        ((if scope.skipRangeTable then [] else q.rtable.flatMap (Node.entryContents scope)) ++
          (if scope.skipCtes then [] else q.cteList)) := by
  have hentry (member : Node) : (Step.shown (member.entryPlan scope (depth + 1))).map Prod.fst =
      member.entryContents scope := by
    cases member with
    | rangeTblEntry entry =>
        rw [Node.entryPlan, hhidden, Step.shown_enter]
        exact Step.map_fst_shown_toEach _ _
    | _ => rfl
  rw [Query.plan, Step.shown_enter, Step.shown_append, Step.shown_append, List.map_append,
    List.map_append, Step.map_fst_shown_toEach]
  congr 2
  · split
    · rfl
    · rw [Step.shown_flatMap, List.map_flatMap]
      simp only [hentry]
  · split
    · rfl
    · exact Step.map_fst_shown_toEach _ _

theorem shows_walkQuery (hhidden : scope.showEntries = false) {q : Query} {nesting : Nesting}
    (hfits : q.Fits scope nesting)
    (htable : scope.skipRangeTable = false ->
      forall member : Node, member ∈ q.rtable -> member.tag = .rangeTblEntry) :
    Shows (fun visit : Visitor _ ε => walkQuery visit scope q) nesting
      (q.clauses ++
        ((if scope.skipRangeTable then [] else q.rtable.flatMap (Node.entryContents scope)) ++
          (if scope.skipCtes then [] else q.cteList))) := by
  rw [← map_fst_shown_plan hhidden q nesting.depth]
  apply shows_of_performs (performs_queryPlan (Reply.balanced_run _) q nesting)
  intro step
  exact passes_plan hfits htable

/-!
# Levels
-/

/-- A transformation that succeeds has taken the levels that a walk over its result takes. -/
theorem fits_of_run {transform : Transformer σ ε}
    (htransform : forall node : Node, (transform node).Balanced) {q answer : Query}
    {nesting : Nesting} {state : σ} {after : Nesting × σ}
    (hrun : runFrom (transformQuery transform scope q) nesting state = (.ok answer, after))
    (hlength : answer.rtable.length = q.rtable.length) : answer.Fits scope nesting := by
  rcases transformQuery_eq_ok.mp hrun with
    ⟨hroom, _, _, _, between, _, _, hclauses, htable, _⟩
  refine ⟨hroom, ?_⟩
  intro hcovered hnonempty
  -- the clauses gave their levels back, so the first entry was entered from the query's level
  have hbetween := Balanced.mapM htransform q.clauses
    { nesting with depth := nesting.depth + 1 } state
  rw [hclauses] at hbetween
  rw [hcovered] at htable
  cases hmembers : q.rtable with
  | nil =>
      rw [hmembers] at hlength
      exact absurd (List.eq_nil_of_length_eq_zero hlength) hnonempty
  | cons member rest =>
      change runFrom (q.rtable.mapM (transformEntry transform scope)) _ _ = _ at htable
      rw [hmembers, List.mapM_cons] at htable
      rcases runFrom_bind_eq_ok.mp htable with ⟨_, _, hmember, _⟩
      rw [transformEntry_eq, hbetween] at hmember
      exact (runFrom_guarded_eq_ok.mp hmember).left

/-!
# Whole queries
-/

/-- A transformation of a query asks about the parts that the scope covers, in order, and
leaves everything else of the query as it was.  Where entries are not shown they stay what
they are, and a walk over the result shows just the answers.  Where they are shown, the
first of them that is answered with something else than an entry ends the transformation. -/
theorem transformQuery_frame (transform : Transformer σ ε) (scope : Scope) (q : Query)
    (nesting : Nesting) (state : σ) :
    exists calls : List (Node × Except ε Node),
      runFrom (transformQuery (noting transform) scope q) nesting (state, []) =
        beside (runFrom (transformQuery transform scope q) nesting state) calls ∧
      q.calls scope (runFrom (transformQuery transform scope q) nesting state).1 calls ∧
      (forall answer : Query,
        (runFrom (transformQuery transform scope q) nesting state).1 = .ok answer ->
          q.SameFrame answer ∧
          (scope.skipRangeTable = true -> answer.rtable = q.rtable) ∧
          answer.rtable.length = q.rtable.length ∧
          (scope.skipRangeTable = false ->
            forall member : Node, member ∈ answer.rtable -> member.tag = .rangeTblEntry) ∧
          (scope.skipCtes = true -> answer.cteList = q.cteList) ∧
          answer.cteList.length = q.cteList.length ∧
          (scope.showEntries = false ->
            (scope.skipRangeTable = false ->
              List.Forall₂ (Node.SameEntry scope) q.rtable answer.rtable) ∧
            exists replies : List Node,
              calls.map Prod.snd = replies.map .ok ∧
              (forall again : Nesting, answer.Fits scope again ->
                Shows (fun visit : Visitor _ ε => walkQuery visit scope answer) again replies) ∧
              ((forall node : Node, (transform node).Balanced) ->
                answer.Fits scope nesting))) ∧
      (scope.showEntries = true -> scope.skipRangeTable = false ->
        forall (before : List Node) (member : Node) (rest clauses : List Node)
          (entries : List (List (Node × Except ε Node))) (reply : Node)
          (more : List (Node × Except ε Node)),
          q.rtable = before ++ member :: rest ->
          clauses.length = q.clauses.length ->
          List.Forall₂ (Node.EntryAnswered scope) before entries ->
          calls = q.clauses.zip (clauses.map .ok) ++
            (entries.flatten ++ (member, .ok reply) :: more) ->
          reply.tag ≠ .rangeTblEntry ->
            (runFrom (transformQuery transform scope q) nesting state).1 =
              .error (OfTreeError.ofTreeError
                (.unrecognizedNode reply.tag .transformRangeTable)) ∧
            more = []) := by
  rcases transcribes_transformQuery transform scope q nesting state with ⟨calls, hcalls, hnoted⟩
  refine ⟨calls, hnoted [], hcalls, ?_, ?_⟩
  · intro answer hanswer
    rw [hanswer] at hcalls
    rcases Query.calls_ok hcalls with
      ⟨clauses, rtable, cteList, clauseCalls, tableCalls, cteCalls, hclauses, htable, hctes, rfl,
        rfl⟩
    have hlength := Protocol.length_of_each hclauses
    rcases Query.tableCalls_ok htable with ⟨hverbatim, hrtable, hentries⟩
    rcases Query.cteCalls_ok hctes with ⟨hcteVerbatim, hcteLength, hcteReplies⟩
    refine ⟨Query.sameFrame_replaced hlength rtable cteList, hverbatim, hrtable, hentries,
      hcteVerbatim, hcteLength, ?_⟩
    intro hhidden
    rcases Query.tableCalls_hidden hhidden htable with ⟨hsame, hreplies⟩
    refine ⟨hsame, _, ?_, fun again hfits => shows_walkQuery hhidden hfits hentries, ?_⟩
    · rw [List.map_append, List.map_append, Protocol.map_snd_of_each_asks hclauses, hreplies,
        hcteReplies, Query.clauses_replaced hlength, List.map_append, List.map_append]
    · intro htransform
      exact fits_of_run htransform (Prod.ext hanswer rfl) hrtable
  · intro hshow hcovered before member rest clauses entries reply more hsplit hclauses hbefore hall
      hreply
    apply (pins_calls_of_tag_ne hshow hcovered hclauses hbefore hsplit hreply).outcome hcalls
    rw [hall, List.append_assoc, List.append_assoc]
    rfl

/-- The first node that is shown stays, and an empty list is put in the place of the others. -/
def keepFirst (shown : Node) : Traversal Nat TreeError Node := do
  let count ← state
  modifyState (· + 1)
  return if count = 0 then shown else .list []

/-- A query over three tables, which selects nothing. -/
def Query.ofTables : Query :=
  { Query.bare with rtable := [table 1, table 2, table 3] }
where
  table (relId : Oid) : Node :=
    .rangeTblEntry {
      kind := .relation relId 'r' none
      header := {
        correlation := none, eref := { name := "table", colnames := [] }, lateral := false,
        inh := true, inFromClause := true }
      securityQuals := [] }

open Query.ofTables in
/-- The third table is not shown any more. -/
theorem transformQuery_frame_ofTables :
    runFrom (transformQuery (noting keepFirst) { showEntries := true } .ofTables) (.start 2)
        (0, []) =
      (.error (.unrecognizedNode .list .transformRangeTable), .start 2, 2,
        [(table 1, .ok (table 1)), (table 2, .ok (.list []))]) := by
  rcases transformQuery_frame keepFirst { showEntries := true } .ofTables (.start 2) 0 with
    ⟨calls, hnoted, _, _, hforeign⟩
  have hcalls : calls = [(table 1, .ok (table 1)), (table 2, .ok (.list []))] :=
    congrArg (fun run => run.2.2.2) hnoted.symm
  have hfirst : List.Forall₂ (Node.EntryAnswered { showEntries := true }) [table 1]
      [[(table 1, (.ok (table 1) : Except TreeError Node))]] :=
    .cons ⟨_, [], rfl, rfl⟩ .nil
  have herror := hforeign rfl rfl [table 1] (table 2) [table 3] [] _ (.list []) [] rfl rfl hfirst
    hcalls nofun
  rw [hnoted, beside, herror.left, hcalls]
  rfl

end QueryTree
