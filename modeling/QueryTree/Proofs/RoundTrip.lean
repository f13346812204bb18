import QueryTree.Command.Run
import QueryTree.Node.Reader
import QueryTree.Proofs.Codec
import QueryTree.Proofs.Coverage
import QueryTree.Proofs.DecimalText
import QueryTree.RawNode.Reader

/-!
# Trees are read back

What is written for a tree is read as that tree, field by field, from memory and from its
text.  For each kind of node the values are written in the order in which the fields are
read, under names that occur once; the rest follows from the laws of records and
alternatives.
-/

namespace QueryTree

open Json

variable {bound : Nat} {form : SingleForm}

/-!
# Choices
-/

instance : LawfulNamed Node.Tag :=
  lawfulNamed_of_nodup (fun tag => by cases tag <;> decide) (by decide +kernel)

instance : LawfulNamed RawNode.Tag :=
  lawfulNamed_of_nodup (fun tag => by cases tag <;> decide) (by decide +kernel)

instance : LawfulNamed CoercionForm :=
  lawfulNamed_of_nodup (fun choice => by cases choice <;> decide) (by decide)

instance : LawfulNamed ParamKind :=
  lawfulNamed_of_nodup (fun choice => by cases choice <;> decide) (by decide)

instance : LawfulNamed AggKind :=
  lawfulNamed_of_nodup (fun choice => by cases choice <;> decide) (by decide)

instance : LawfulNamed BoolExprType :=
  lawfulNamed_of_nodup (fun choice => by cases choice <;> decide) (by decide)

instance : LawfulNamed SubLinkType :=
  lawfulNamed_of_nodup (fun choice => by cases choice <;> decide) (by decide)

instance : LawfulNamed RowCompareType :=
  lawfulNamed_of_nodup (fun choice => by cases choice <;> decide) (by decide)

instance : LawfulNamed MinMaxOp :=
  lawfulNamed_of_nodup (fun choice => by cases choice <;> decide) (by decide)

instance : LawfulNamed XmlExprOp :=
  lawfulNamed_of_nodup (fun choice => by cases choice <;> decide) (by decide)

instance : LawfulNamed XmlOptionType :=
  lawfulNamed_of_nodup (fun choice => by cases choice <;> decide) (by decide)

instance : LawfulNamed NullTestType :=
  lawfulNamed_of_nodup (fun choice => by cases choice <;> decide) (by decide)

instance : LawfulNamed BoolTestType :=
  lawfulNamed_of_nodup (fun choice => by cases choice <;> decide) (by decide)

instance : LawfulNamed JoinType :=
  lawfulNamed_of_nodup (fun choice => by cases choice <;> decide) (by decide)

instance : LawfulNamed OnConflictAction :=
  lawfulNamed_of_nodup (fun choice => by cases choice <;> decide) (by decide)

instance : LawfulNamed SetOperation :=
  lawfulNamed_of_nodup (fun choice => by cases choice <;> decide) (by decide)

instance : LawfulNamed WcoKind :=
  lawfulNamed_of_nodup (fun choice => by cases choice <;> decide) (by decide)

instance : LawfulNamed CmdType :=
  lawfulNamed_of_nodup (fun choice => by cases choice <;> decide) (by decide)

instance : LawfulNamed AExprKind :=
  lawfulNamed_of_nodup (fun choice => by cases choice <;> decide) (by decide)

instance : LawfulNamed SortByDir :=
  lawfulNamed_of_nodup (fun choice => by cases choice <;> decide) (by decide)

instance : LawfulNamed SortByNulls :=
  lawfulNamed_of_nodup (fun choice => by cases choice <;> decide) (by decide)

instance : LawfulNamed GroupingSetKind :=
  lawfulNamed_of_nodup (fun choice => by cases choice <;> decide) (by decide)

instance : LawfulNamed LockClauseStrength :=
  lawfulNamed_of_nodup (fun choice => by cases choice <;> decide) (by decide)

instance : LawfulNamed LockWaitPolicy :=
  lawfulNamed_of_nodup (fun choice => by cases choice <;> decide) (by decide)

/-!
# Constants, aliases and literals
-/

namespace Datum

/-- Floating-point numbers have to be finite to be written. -/
def Finite : Datum -> Prop
  | .float4 value => value.isFinite = true
  | .float8 value => value.isFinite = true
  | _ => True

/-- The numbers that are written with a point are read back: a finite floating-point number
from its digits, a decimal from its text.  Every decimal but minus zero is
(`Decimal.ofText?_toText`). -/
def ReadsBack (form : SingleForm) : Datum -> Prop
  | .float4 value =>
      value.isFinite = true ->
        (form.toJson value).Spelled ∧
          forall rules : Rules, readFloat32 (form.toJson value) rules = some value
  | .float8 value =>
      value.isFinite = true ->
        (floatToJson value).Spelled ∧
          forall rules : Rules, readFloat (floatToJson value) rules = some value
  | .numeric value => Decimal.ofText? value.toText = some value
  | _ => True

theorem recovers {value : Datum} (hfinite : value.Finite) (hreads : value.ReadsBack form) :
    Recovers bound read (value.toJson form) value := by
  cases value with
  | null => exact recovers_bare rfl
  | float4 value =>
      apply Recovers.mono (recovers_alternative _) (Nat.le_succ bound)
      rcases hreads hfinite with ⟨hspelled, hread⟩
      exact recovers_map Datum.float4 fun rules _ _ => ⟨hspelled, hread rules⟩
  | float8 value =>
      apply Recovers.mono (recovers_alternative _) (Nat.le_succ bound)
      rcases hreads hfinite with ⟨hspelled, hread⟩
      exact recovers_map Datum.float8 fun rules _ _ => ⟨hspelled, hread rules⟩
  | numeric value =>
      apply Recovers.mono (recovers_alternative _) (Nat.le_succ bound)
      apply recovers_map Datum.numeric
      intro rules _hroom _hdepth
      refine ⟨.str value.toText, ?_⟩
      show instCodedDecimal.lift (Decimal.ofText? value.toText) rules = _
      rw [hreads]
      rfl
  | _ =>
      apply Recovers.mono (recovers_alternative _) (Nat.le_succ bound)
      exact recovers_map _ (LawfulCoded.recovers bound _)

end Datum

instance : LawfulCoded Alias where
  recovers _ a := by
    apply recovers_record (by decide) rfl
    exact takesAll_cons (takes_next a.name) (takesAll_cons (takes_next a.colnames) (takesAll_nil _))

instance : NeverNull Alias where
  encode_ne_null _ := nofun

/-!
# Analyzed trees
-/

namespace Node

theorem Tag.fields_nodup (tag : Tag) : tag.fields.Nodup := by
  cases tag <;> decide

theorem listToJson_eq_map (nodes : List Node) :
    listToJson form nodes = nodes.map (toJson form) := by
  induction nodes with
  | nil => rfl
  | cons node rest ih => rw [listToJson, List.map_cons, ih]

theorem whensToJson_eq_map (whens : List CaseWhen) :
    whensToJson form whens = whens.map (whenToJson form) := by
  induction whens with
  | nil => rfl
  | cons w rest ih => rw [whensToJson, List.map_cons, ih]

theorem toJson_ne_null (node : Node) : node.toJson form ≠ .null := by
  cases node with
  | query q =>
      cases q
      exact nofun
  | rangeTblEntry entry =>
      cases entry
      exact nofun
  | _ => exact nofun

section

variable {reader : Json -> Decode Node}

theorem takes_nodes {nodes : List Node}
    (hnodes : forall node : Node, node ∈ nodes -> Recovers bound reader (node.toJson form) node) :
    Takes bound (Fields.many reader) (.arr (listToJson form nodes)) nodes := by
  rw [listToJson_eq_map]
  exact takes_many hnodes

theorem takes_optNode {slot : Option Node}
    (hslot : forall node : Node, node ∈ slot.toList ->
      Recovers bound reader (node.toJson form) node) :
    Takes bound (Fields.opt reader) (optionToJson form slot) slot := by
  cases slot with
  | none => exact takes_opt_none reader
  | some node => exact takes_opt_some node.toJson_ne_null (hslot node (List.mem_singleton.mpr rfl))

/-- A record under the name of its kind is read by the fields of that kind. -/
theorem recovers_write {tag : Tag} {values : List Json} {node : Node} (htag : tag ≠ .list)
    (hlength : values.length = tag.fields.length)
    (hfields : TakesAll bound (readFields reader tag) values node) :
    Recovers (bound + 1) (readWith reader) (write tag values) node := by
  apply recovers_alternative
  have hname : (Named.ofName? tag.name : Option Tag) = some tag :=
    LawfulNamed.ofName?_name tag
  have hrecord := recovers_record tag.fields_nodup hlength hfields
  simp only [hname]
  cases tag with
  | list => exact absurd rfl htag
  | _ => exact hrecord

theorem recovers_when {w : CaseWhen}
    (hnodes : forall node : Node, node ∈ w.nodes -> Recovers bound reader (node.toJson form) node) :
    Recovers bound (readWhen reader) (whenToJson form w) w := by
  rcases w with ⟨expr, result, location⟩
  have hexpr := hnodes expr (by simp [CaseWhen.nodes])
  have hresult := hnodes result (by simp [CaseWhen.nodes])
  apply recovers_record (by decide) rfl
  exact takesAll_cons (takes_one hexpr) (takesAll_cons (takes_one hresult)
    (takesAll_cons (takes_next location) (takesAll_nil _)))

theorem takes_whens {whens : List CaseWhen}
    (hnodes : forall node : Node, node ∈ whens.flatMap CaseWhen.nodes ->
      Recovers bound reader (node.toJson form) node) :
    Takes bound (Fields.many (readWhen reader)) (.arr (whensToJson form whens)) whens := by
  rw [whensToJson_eq_map]
  apply takes_many
  intro w hw
  apply recovers_when
  intro node hnode
  exact hnodes node (List.mem_flatMap.mpr ⟨w, hw, hnode⟩)

/-- Each kind of entry is a record under the name of the kind. -/
theorem recovers_kind {kind : RteKind}
    (hnodes : forall node : Node, node ∈ kind.slots ->
      Recovers bound reader (node.toJson form) node) :
    Recovers bound (readKind reader) (kindToJson form kind) kind := by
  cases kind with
  | _ =>
      apply Recovers.mono (recovers_alternative _) (Nat.le_succ bound)
      refine recovers_alternativeRecord (by decide) (by rfl) ?_
      repeat' first
        | with_reducible refine takesAll_cons (takes_next _) ?_
        | with_reducible
            refine takesAll_cons (takes_nodes fun x hx => hnodes x (by simp [RteKind.slots, hx])) ?_
        | with_reducible
            refine takesAll_cons (takes_one (hnodes _ (by simp [RteKind.slots]))) ?_
        | with_reducible
            refine takesAll_cons
              (takes_optNode fun x hx => hnodes x (by simp [RteKind.slots, hx])) ?_
        | exact takesAll_nil _

/-- A node is recovered if its constants and the nodes below it are. -/
theorem recovers_node {node : Node}
    (hleaf : forall data : Const, node = .const data ->
      Recovers bound Datum.read (data.value.toJson form) data.value)
    (hbelow : forall child : Node, child ∈ node.slots ->
      Recovers bound reader (child.toJson form) child) :
    Recovers (bound + 1) (readWith reader) (node.toJson form) node := by
  cases node with
  | const data =>
      rw [toJson]
      refine recovers_write (by decide) (by rfl) ?_
      rw [readFields]
      repeat' first
        | with_reducible refine takesAll_cons (takes_next _) ?_
        | with_reducible refine takesAll_cons (takes_one (hleaf data rfl)) ?_
        | exact takesAll_nil _
  | caseExpr data arg whens otherwise =>
      have hwhens : forall node : Node, node ∈ whens.flatMap CaseWhen.nodes ->
          Recovers bound reader (node.toJson form) node := by
        intro node hnode
        exact hbelow node (by simp only [slots, List.mem_append, hnode, true_or, or_true])
      rw [toJson]
      refine recovers_write (by decide) (by rfl) ?_
      rw [readFields]
      repeat' first
        | with_reducible refine takesAll_cons (takes_next _) ?_
        | with_reducible refine takesAll_cons (takes_whens hwhens) ?_
        | with_reducible
            refine takesAll_cons (takes_optNode fun x hx => hbelow x (by simp [slots, hx])) ?_
        | exact takesAll_nil _
  | query q =>
      rcases q with ⟨⟩
      rw [toJson, queryToJson]
      refine recovers_write (by decide) (by rfl) ?_
      rw [readFields]
      repeat' first
        | with_reducible refine takesAll_cons (takes_next _) ?_
        | with_reducible
            refine takesAll_cons
              (takes_nodes fun x hx => hbelow x (by simp [slots, Query.slots, hx])) ?_
        | with_reducible
            refine takesAll_cons
              (takes_optNode fun x hx => hbelow x (by simp [slots, Query.slots, hx])) ?_
        | exact takesAll_nil _
  | rangeTblEntry entry =>
      rcases entry with ⟨kind, header, securityQuals⟩
      have hkind : Recovers bound (readKind reader) (kindToJson form kind) kind := by
        apply recovers_kind
        intro node hnode
        exact hbelow node (List.mem_append_left _ hnode)
      rw [toJson, entryToJson]
      refine recovers_write (by decide) (by rfl) ?_
      rw [readFields]
      repeat' first
        | with_reducible refine takesAll_cons (takes_next _) ?_
        | with_reducible refine takesAll_cons (takes_one hkind) ?_
        | with_reducible
            refine takesAll_cons
              (takes_nodes fun x hx => hbelow x (List.mem_append_right _ hx)) ?_
        | exact takesAll_nil _
  | list items =>
      rw [toJson, listToJson_eq_map]
      apply recovers_alternative
      intro rules hroom hdepth
      have hname : (Named.ofName? "List" : Option Tag) = some .list :=
        LawfulNamed.ofName?_name Tag.list
      rcases recovers_items hbelow hroom hdepth with ⟨hspelled, hitems⟩
      refine ⟨hspelled, ?_⟩
      rw [slots] at hitems
      simp only [hname]
      rw [enter_map, hitems]
      rfl
  | _ =>
      -- every other kind: its values stand in the order in which its fields are read
      rw [toJson]
      refine recovers_write (by decide) (by rfl) ?_
      rw [readFields]
      repeat' first
        | with_reducible refine takesAll_cons (takes_next _) ?_
        | with_reducible
            refine takesAll_cons (takes_nodes fun x hx => hbelow x (by simp [slots, hx])) ?_
        | with_reducible refine takesAll_cons (takes_one (hbelow _ (by simp [slots]))) ?_
        | with_reducible
            refine takesAll_cons (takes_optNode fun x hx => hbelow x (by simp [slots, hx])) ?_
        | exact takesAll_nil _

end

/-- A tree is recovered with its constants, whatever number of levels is enough for it. -/
theorem recovers_bounded (levels : Nat) {node : Node}
    (hleaves : forall data : Const, .const data ∈ node.stored ->
      data.value.Finite ∧ data.value.ReadsBack form) :
    Recovers levels (Decode.nested.bounded readWith levels) (node.toJson form) node := by
  -- on the levels and not on the tree: each level of the reader opens a bracket
  induction levels generalizing node with
  | zero =>
      intro rules hroom
      cases hroom
  | succ levels ih =>
      apply recovers_node
      · rintro data rfl
        have hleaf := hleaves data (mem_stored_self _)
        exact Datum.recovers hleaf.left hleaf.right
      · intro child hchild
        apply ih
        intro data hdata
        exact hleaves data (mem_stored_of_mem_slots hchild hdata)

theorem read_toJson {node : Node}
    (hleaves : forall data : Const, .const data ∈ node.stored ->
      data.value.Finite ∧ data.value.ReadsBack form)
    (rules : Rules) (hroom : (node.toJson form).depth <= rules.room) :
    (node.toJson form).Spelled ∧ read (node.toJson form) rules = some node :=
  recovers_bounded (rules.room + 1) hleaves rules (Nat.lt_succ_self _) hroom

end Node

/-!
# Raw trees
-/

instance : LawfulCoded Value where
  recovers bound value := by
    cases value with
    | null => exact recovers_bare rfl
    | _ =>
        apply Recovers.mono (recovers_alternative _) (Nat.le_succ bound)
        exact recovers_map _ (LawfulCoded.recovers bound _)

namespace RawNode

theorem Tag.fields_nodup (tag : Tag) : tag.fields.Nodup := by
  cases tag <;> decide

theorem listToJson_eq_map (nodes : List RawNode) : listToJson nodes = nodes.map toJson := by
  induction nodes with
  | nil => rfl
  | cons node rest ih => rw [listToJson, List.map_cons, ih]

theorem whensToJson_eq_map (whens : List CaseWhen) :
    whensToJson whens = whens.map CaseWhen.toJson := by
  induction whens with
  | nil => rfl
  | cons w rest ih => rw [whensToJson, List.map_cons, ih]

theorem toJson_ne_null (node : RawNode) : node.toJson ≠ .null := by
  cases node with
  | _ => exact nofun

section

variable {reader : Json -> Decode RawNode}
  (hbelow : forall node : RawNode, Recovers bound reader node.toJson node)

include hbelow

theorem takes_nodes (nodes : List RawNode) :
    Takes bound (Fields.many reader) (.arr (listToJson nodes)) nodes := by
  rw [listToJson_eq_map]
  exact takes_many fun node _ => hbelow node

theorem takes_optNode (slot : Option RawNode) :
    Takes bound (Fields.opt reader) (optionToJson slot) slot := by
  cases slot with
  | none => exact takes_opt_none reader
  | some node => exact takes_opt_some node.toJson_ne_null (hbelow node)

theorem takes_whens (whens : List CaseWhen) :
    Takes bound (Fields.many (readWhen reader)) (.arr (whensToJson whens)) whens := by
  rw [whensToJson_eq_map]
  apply takes_many
  rintro ⟨expr, result, location⟩ _hw
  apply recovers_record (by decide) rfl
  exact takesAll_cons (takes_one (hbelow expr)) (takesAll_cons (takes_one (hbelow result))
    (takesAll_cons (takes_next location) (takesAll_nil _)))

end

/-- A record under the name of its kind is read by the fields of that kind. -/
theorem recovers_write {reader : Json -> Decode RawNode} {tag : Tag} {values : List Json}
    {node : RawNode} (htag : tag ≠ .value ∧ tag ≠ .aStar ∧ tag ≠ .list)
    (hlength : values.length = tag.fields.length)
    (hfields : TakesAll bound (readFields reader tag) values node) :
    Recovers (bound + 1) (readWith reader) (write tag values) node := by
  apply recovers_alternative
  have hname : (Named.ofName? tag.name : Option Tag) = some tag :=
    LawfulNamed.ofName?_name tag
  have hrecord := recovers_record tag.fields_nodup hlength hfields
  simp only [hname]
  cases tag with
  | value => exact absurd rfl htag.left
  | aStar => exact absurd rfl htag.right.left
  | list => exact absurd rfl htag.right.right
  | _ => exact hrecord

theorem recovers_node {reader : Json -> Decode RawNode}
    (hbelow : forall node : RawNode, Recovers bound reader node.toJson node) (node : RawNode) :
    Recovers (bound + 1) (readWith reader) node.toJson node := by
  have hname (tag : Tag) : (Named.ofName? tag.name : Option Tag) = some tag :=
    LawfulNamed.ofName?_name tag
  cases node with
  | value v =>
      apply recovers_alternative
      simp only [show (Named.ofName? "Value" : Option Tag) = some .value from hname .value]
      exact recovers_map RawNode.value (LawfulCoded.recovers bound v)
  | aStar =>
      apply recovers_alternative
      simp only [show (Named.ofName? "AStar" : Option Tag) = some .aStar from hname .aStar]
      intro rules _hroom _hdepth
      exact ⟨.null, rfl⟩
  | rangeAlias data =>
      show Recovers _ _ (write .rangeAlias [encode data.name, encode data.colnames]) _
      refine recovers_write (by decide) (by rfl) ?_
      exact takesAll_cons (takes_next data.name) (takesAll_cons (takes_next data.colnames)
        (takesAll_nil _))
  | list items =>
      rw [toJson, listToJson_eq_map]
      apply recovers_alternative
      intro rules hroom hdepth
      rcases recovers_items (fun item (_ : item ∈ items) => hbelow item) hroom hdepth with
        ⟨hspelled, hitems⟩
      refine ⟨hspelled, ?_⟩
      simp only [show (Named.ofName? "List" : Option Tag) = some .list from hname .list]
      rw [enter_map, hitems]
      rfl
  | _ =>
      rw [toJson]
      refine recovers_write (by decide) (by rfl) ?_
      rw [readFields]
      repeat' first
        | with_reducible refine takesAll_cons (takes_next _) ?_
        | with_reducible refine takesAll_cons (takes_nodes hbelow _) ?_
        | with_reducible refine takesAll_cons (takes_one (hbelow _)) ?_
        | with_reducible refine takesAll_cons (takes_optNode hbelow _) ?_
        | with_reducible refine takesAll_cons (takes_whens hbelow _) ?_
        | exact takesAll_nil _

theorem recovers_bounded (levels : Nat) (node : RawNode) :
    Recovers levels (Decode.nested.bounded readWith levels) node.toJson node := by
  induction levels generalizing node with
  | zero =>
      intro rules hroom
      cases hroom
  | succ levels ih => exact recovers_node ih node

theorem read_toJson (node : RawNode) (rules : Rules) (hroom : node.toJson.depth <= rules.room) :
    node.toJson.Spelled ∧ read node.toJson rules = some node :=
  recovers_bounded (rules.room + 1) node rules (Nat.lt_succ_self _) hroom

end RawNode

/-!
# Both kinds of trees
-/

/-- A tree is what is read from its written form: from a value in memory, and from its text
in either layout if no more brackets nest than a text may have. -/
theorem trees_read_back (form : SingleForm) (node : Node) (raw : RawNode)
    (hfinite : forall data : Const, .const data ∈ node.stored -> data.value.Finite)
    (hreads : forall data : Const, .const data ∈ node.stored -> data.value.ReadsBack form) :
    (Node.ofJson? (node.toJson form) = some node ∧
      ((node.toJson form).depth <= Rules.text.room ->
        Node.ofText? (node.toJson form).compact = some node ∧
          Node.ofText? (Command.printJson (node.toJson form)) = some node)) ∧
      RawNode.ofJson? raw.toJson = some raw ∧
        (raw.toJson.depth <= Rules.text.room ->
          RawNode.ofText? raw.toJson.compact = some raw ∧
            RawNode.ofText? (Command.printJson raw.toJson) = some raw) := by
  have hnode : forall rules : Rules, (node.toJson form).depth <= rules.room ->
      (node.toJson form).Spelled ∧ Node.read (node.toJson form) rules = some node :=
    Node.read_toJson fun data hdata => ⟨hfinite data hdata, hreads data hdata⟩
  refine ⟨⟨decode?_of_recovers hnode, ?_⟩, decode?_of_recovers raw.read_toJson, ?_⟩
  · intro hdepth
    exact ⟨decodeText?_compact hnode hdepth, decodeText?_pretty hnode hdepth⟩
  · intro hdepth
    exact ⟨decodeText?_compact raw.read_toJson hdepth, decodeText?_pretty raw.read_toJson hdepth⟩

/-- A price of one and a half, written with two places. -/
def price : Decimal where
  negative := false
  coefficient := 150
  scale := 2
  coefficient_lt := by decide
  scale_le := by decide

def namedPrice : Node :=
  .namedArgExpr { name := "price", argNumber := 0, location := none }
    (.ofDatum BuiltinType.numeric.toOid (-1) Oid.invalid (-1) (.numeric price) false)

/-- The places of a decimal and the payload of a star are kept. -/
theorem trees_read_back_namedPrice :
    Node.ofText? (Command.printJson (namedPrice.toJson .single)) = some namedPrice ∧
      RawNode.ofText? (Command.printJson (RawNode.list [.aStar]).toJson) =
        some (.list [.aStar]) := by
  have hconst (data : Const) (hdata : .const data ∈ namedPrice.stored) :
      data.value = .numeric price := by
    rw [Node.stored_eq] at hdata
    simp only [namedPrice, Node.slots, Node.ofDatum, List.flatMap_singleton, Node.stored_eq,
      List.flatMap_nil, List.mem_cons, List.not_mem_nil, or_false, reduceCtorEq, false_or,
      Node.const.injEq] at hdata
    rw [hdata]
  have hfinite (data : Const) (hdata : .const data ∈ namedPrice.stored) : data.value.Finite := by
    rw [hconst data hdata]
    trivial
  have hreads (data : Const) (hdata : .const data ∈ namedPrice.stored) :
      data.value.ReadsBack .single := by
    rw [hconst data hdata]
    exact Decimal.ofText?_toText (fun _ => by decide)
  have hback := trees_read_back .single namedPrice (.list [.aStar]) hfinite hreads
  exact ⟨(hback.left.right (by decide)).right, (hback.right.right (by decide)).right⟩

end QueryTree
