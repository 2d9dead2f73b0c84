/-
Criteria survive the interchange format: the JSON text of a criterion is
read back as the criterion that the text shows. The text is dealt with by the
round trip of JSON values; what remains is that decoding undoes encoding for
every kind of value and node, in as many levels of room as the JSON value is
nested deep. Left out are floating-point values, which not every decimal text
brings back.

# Room

A reader is given the levels that it may still go down, as the decoder stops
at a fixed depth. The induction hypothesis is therefore for every room that
the JSON value fits into (`ReadsBack`); a node takes two levels, one for its
tag and one for its fields, and hands the rest on to each of them
(`exists_room_node`).

# What is shown

The induction goes over the tree, with what is shown of a node made of what
is shown of its children (`Value.ofJson?_toJson`, `readsBack_of_exact`).
Only points in time can come back as others than they were, and the main
statement (`ofJsonText?_jsonText`) says when: the criterion itself is read
exactly if every leap second in it ends a minute. `leapAtNoon` is one that
comes back as another criterion.
-/
import FilterCriteria.Criterion.Json
import FilterCriteria.Proofs.Criterion.Every
import FilterCriteria.Proofs.Criterion.Operator
import FilterCriteria.Proofs.Criterion.Shown
import FilterCriteria.Proofs.Json.Decode

namespace FilterCriteria

open Json

-- ============================================================ finite maps

namespace Assoc

variable {α : Type}

/-- A name above all others goes to the end. -/
theorem insert_of_lt {name : String} {m : List (String × α)} (a : α)
    (h : ∀ e ∈ m, e.1 < name) : insert name a m = m ++ [(name, a)] := by
  induction m with
  | nil => rfl
  | cons e m ih =>
      obtain ⟨key, b⟩ := e
      have hlt : key < name := h (key, b) (.head _)
      have hne : name ≠ key := fun heq => String.lt_irrefl _ (heq ▸ hlt)
      rw [insert, if_neg hne, if_neg (String.lt_asymm hlt),
        ih fun e he => h e (.tail _ he), List.cons_append]

/-- Entering the entries of a map in their order rebuilds it. -/
theorem ofList_of_sorted {m : List (String × α)} (h : Sorted m) :
    ofList m = m := by
  -- what has been entered so far is always the part in front
  have hfold : ∀ front rest : List (String × α), Sorted (front ++ rest) →
      rest.foldl (fun m e => insert e.1 e.2 m) front = front ++ rest := by
    intro front rest
    induction rest generalizing front with
    | nil => intro _; rw [List.foldl_nil, List.append_nil]
    | cons e rest ih =>
        intro hsorted
        have hlt : ∀ d ∈ front, d.1 < e.1 := by
          intro d hd
          rw [Sorted, List.map_append, List.pairwise_append] at hsorted
          exact hsorted.2.2 _ (List.mem_map_of_mem hd) _ (.head _)
        rw [List.foldl_cons, insert_of_lt e.2 hlt, ih, List.append_assoc,
          List.singleton_append]
        rwa [List.append_assoc, List.singleton_append]
  exact hfold [] m h

end Assoc

-- ============================================================== values

namespace Value

/-- A value that the interchange format has room for, as far as the value
itself goes: no floating-point number, a year that is not too far away, and
fields in their order. -/
def Exact : Value → Prop
  | .single _ | .double _ | .decimal _ => False
  | .dateTime t => -262143 ≤ t.date.year ∧ t.date.year ≤ 262142
  | .object fields => Assoc.Sorted fields
  | _ => True

theorem itemsToJson_eq_map (items : List Value) :
    itemsToJson items = items.map toJson := by
  induction items with
  | nil => rfl
  | cons v items ih => rw [itemsToJson, ih, List.map_cons]

theorem fieldsToJson_eq_map (fields : List (String × Value)) :
    fieldsToJson fields = fields.map fun f => (some f.1, f.2.toJson) := by
  induction fields with
  | nil => rfl
  | cons f fields ih => rw [fieldsToJson, ih, List.map_cons]

/-- One level of room is taken, and the rest is left. -/
theorem exists_room {n room : Nat} (h : n + 1 ≤ room) :
    ∃ r, room = r + 1 ∧ n ≤ r :=
  ⟨room - 1, by omega, by omega⟩

/-- A scalar takes one level, and its payload says what it is. -/
theorem ofJson?_scalar {kind : String} {payload : Json} {v : Value}
    {room : Nat} (hroom : (tagged kind payload).depth ≤ room)
    (h : scalarOfJson? kind payload = some v) :
    ofJson? room (tagged kind payload) = some v := by
  rw [depth_tagged] at hroom
  obtain ⟨room, rfl, -⟩ := exists_room hroom
  unfold tagged ofJson?
  split
  · simp [scalarOfJson?] at h
  · simp [scalarOfJson?] at h
  · simp [scalarOfJson?] at h
  · exact h

/-- A time span is an object with its ticks, a level deeper than the other
scalars. -/
theorem ofJson?_timeSpan {t : TimeSpan} {room : Nat}
    (hroom : (timeSpan t).toJson.depth ≤ room) :
    ofJson? room (timeSpan t).toJson = some (.timeSpan t) := by
  rw [toJson] at hroom ⊢
  rw [depth_tagged, depth_tagged] at hroom
  obtain ⟨outer, rfl, houter⟩ := exists_room hroom
  obtain ⟨inner, rfl, -⟩ := exists_room houter
  have hfields : (ofMembers [("ticks", ofInt t.ticks.toInt)]).fields?
      ["ticks"] = some [some (ofInt t.ticks.toInt)] :=
    fields?_ofMembers rfl (by decide)
  have hpayload : tagged "ticks" (ofInt t.ticks.toInt) =
      ofMembers [("ticks", ofInt t.ticks.toInt)] := rfl
  rw [hpayload]
  simp only [tagged, ofJson?, hfields, int64?_ofInt, Option.bind_eq_bind,
    Option.bind_some, Option.pure_def]

/-- The fields of an object come back in their order, for showing them leaves
the names alone. -/
theorem fieldsOfJson?_map {fields : List (String × Value)}
    {read? : Json → Option Value} (hsorted : Assoc.Sorted fields)
    (h : ∀ f ∈ fields, read? f.2.toJson = some f.2.shown) :
    fieldsOfJson? read? (fields.map fun f => (some f.1, f.2.toJson)) =
      some (fields.map fun f => (f.1, f.2.shown)) := by
  have hnames : Assoc.Sorted (fields.map fun f => (f.1, f.2.shown)) := by
    rwa [Assoc.Sorted, List.map_map]
  have hread : ((fields.map fun f => (some f.1, f.2.toJson)).mapM fun m => do
      pure (← m.1, ← read? m.2)) = some (fields.map fun f => (f.1, f.2.shown)) :=
    mapM_map_eq_some fun f hf => by simp [h f hf]
  simp only [fieldsOfJson?]
  rw [hread, Option.map_some, Assoc.ofList_of_sorted hnames]

/-- A value is read back as it is shown, wherever there is room for it. -/
theorem ofJson?_toJson {v : Value} (h : v.Every Exact) {room : Nat}
    (hroom : v.toJson.depth ≤ room) :
    ofJson? room v.toJson = some v.shown := by
  induction h generalizing room with
  | @node v here below ih =>
      cases v with
      | null => cases room <;> rfl
      | bool b =>
          rw [toJson] at hroom ⊢
          exact ofJson?_scalar hroom rfl
      | char c =>
          rw [toJson] at hroom ⊢
          exact ofJson?_scalar hroom
            (by simp [scalarOfJson?, char?, text?, ofString, shown])
      | int n =>
          rw [toJson] at hroom ⊢
          exact ofJson?_scalar hroom (by simp [scalarOfJson?, int32?_ofInt, shown])
      | long n =>
          rw [toJson] at hroom ⊢
          exact ofJson?_scalar hroom (by simp [scalarOfJson?, int64?_ofInt, shown])
      | string s =>
          rw [toJson] at hroom ⊢
          exact ofJson?_scalar hroom rfl
      | dateTime t =>
          rw [toJson] at hroom ⊢
          have hread := DateTime.ofIso?_iso t here.1 here.2
          exact ofJson?_scalar hroom
            (by simp [scalarOfJson?, text?, ofString, hread, shown])
      | timeSpan t => exact ofJson?_timeSpan hroom
      | array items =>
          rw [toJson, itemsToJson_eq_map] at hroom ⊢
          rw [depth_tagged] at hroom
          obtain ⟨outer, rfl, houter⟩ := exists_room hroom
          obtain ⟨inner, rfl, -⟩ := exists_room houter
          have hitems : (items.map toJson).mapM (ofJson? inner) =
              some (items.map shown) := by
            refine mapM_map_eq_some fun w hw => ih w hw ?_
            have hlt := depth_lt_array (List.mem_map_of_mem (f := toJson) hw)
            omega
          show ((items.map toJson).mapM (ofJson? inner)).map array = _
          rw [hitems, shown_array]
          rfl
      | object fields =>
          rw [toJson, fieldsToJson_eq_map] at hroom ⊢
          rw [depth_tagged] at hroom
          obtain ⟨outer, rfl, houter⟩ := exists_room hroom
          obtain ⟨inner, rfl, -⟩ := exists_room houter
          have hfield : ∀ f ∈ fields,
              ofJson? inner f.2.toJson = some f.2.shown := by
            intro f hf
            have hlt := depth_lt_object (List.mem_map_of_mem
              (f := fun f => (some f.1, f.2.toJson)) hf)
            refine ih f.2 (List.mem_map_of_mem hf) ?_
            show (some f.1, f.2.toJson).2.depth ≤ inner
            omega
          show (fieldsOfJson? (ofJson? inner) _).map object = _
          rw [fieldsOfJson?_map here hfield, shown_object]
          rfl
      | single x | double x | decimal x => exact here.elim

/-- Without floating-point values, all numbers in a value are integers, which
are written as JSON has them. -/
theorem wellFormed_toJson {v : Value} (h : v.Every Exact) :
    v.toJson.WellFormed := by
  induction h with
  | @node v here below ih =>
      cases v with
      | null => exact .string _
      | bool b => exact wellFormed_tagged _ (.bool b)
      | char c => exact wellFormed_tagged _ (.string _)
      | int n => exact wellFormed_tagged _ (wellFormed_ofInt _)
      | long n => exact wellFormed_tagged _ (wellFormed_ofInt _)
      | string s => exact wellFormed_tagged _ (.string _)
      | dateTime t => exact wellFormed_tagged _ (.string _)
      | timeSpan t =>
          exact wellFormed_tagged _ (wellFormed_tagged _ (wellFormed_ofInt _))
      | array items =>
          rw [toJson, itemsToJson_eq_map]
          refine wellFormed_tagged _ (.array fun j hj => ?_)
          obtain ⟨w, hw, rfl⟩ := List.mem_map.mp hj
          exact ih w hw
      | object fields =>
          rw [toJson, fieldsToJson_eq_map]
          refine wellFormed_tagged _ (.object fun m hm => ?_)
          obtain ⟨f, hf, rfl⟩ := List.mem_map.mp hm
          exact ih f.2 (List.mem_map_of_mem hf)
      | single x | double x | decimal x => exact here.elim

end Value

-- ============================================================ criteria

namespace Criterion

/-- A criterion all whose literals the interchange format keeps. -/
def Exact (c : Criterion) : Prop :=
  c.Every fun
    | .literal v => v.Every Value.Exact
    | _ => True

theorem listToJson_eq_map (cs : List Criterion) :
    listToJson cs = cs.map toJson := by
  induction cs with
  | nil => rfl
  | cons c cs ih => rw [listToJson, ih, List.map_cons]

/-- A node takes two levels, and every field has the room that is left. -/
theorem exists_room_node {kind : String} {fields : List (String × Json)}
    {room : Nat} (h : (node kind fields).depth ≤ room) :
    ∃ r, room = r + 2 ∧ ∀ f ∈ fields, f.2.depth ≤ r := by
  rw [node, depth_tagged] at h
  have hpos : 0 < (ofMembers fields).depth := by
    rw [ofMembers, depth]
    omega
  refine ⟨room - 2, by omega, fun f hf => ?_⟩
  have hlt := depth_lt_ofMembers hf
  omega

/-- A custom function is told from a built-in one by its tag. -/
theorem Function.ofJson?_toJson (f : Function) {room : Nat}
    (hroom : f.toJson.depth ≤ room) :
    Function.ofJson? room f.toJson = some f := by
  cases f with
  | builtin f =>
      rw [Function.toJson] at hroom ⊢
      rw [depth_tagged] at hroom
      obtain ⟨room, rfl, -⟩ := Value.exists_room hroom
      simp only [tagged, Function.ofJson?, ofString, named?,
        Builtin.ofName?_name, Option.map_some]
  | custom name =>
      rw [Function.toJson] at hroom ⊢
      rw [depth_tagged] at hroom
      obtain ⟨room, rfl, -⟩ := Value.exists_room hroom
      simp only [tagged, Function.ofJson?, ofString, text?, Option.map_some]

/-- An operand that is missing is written as null, so one that is there must
not be. -/
theorem toJson_ne_null (c : Criterion) : c.toJson ≠ .null := by
  cases c <;> simp [toJson, node, tagged]

/-- A criterion that is read back as it is shown, wherever there is room for
it. -/
def ReadsBack (c : Criterion) : Prop :=
  ∀ {room : Nat}, c.toJson.depth ≤ room →
    ofJson? room c.toJson = some c.shown

/-- Operands in a list are read back each in the room that the list has. -/
theorem listOfJson?_map {cs : List Criterion} {room : Nat}
    (hroom : (Json.array (cs.map toJson)).depth ≤ room)
    (h : ∀ c ∈ cs, c.ReadsBack) :
    listOfJson? room (.array (cs.map toJson)) = some (shownList cs) := by
  obtain ⟨room, rfl, -⟩ := Value.exists_room hroom
  rw [listOfJson?, shownList_eq_map]
  refine mapM_map_eq_some fun c hc => h c hc ?_
  have hlt := depth_lt_array (List.mem_map_of_mem (f := toJson) hc)
  omega

/-- An operand that may be missing is read back, or is missing still. -/
theorem optionOfJson?_optionToJson {c : Option Criterion} {room : Nat}
    (hroom : (optionToJson c).depth ≤ room) (h : ∀ d ∈ c, d.ReadsBack) :
    optionOfJson? (ofJson? room) (some (optionToJson c))
      = some (shownOption c) := by
  cases c with
  | none => rfl
  | some c =>
      have hne := toJson_ne_null c
      rw [optionToJson] at hroom ⊢
      unfold optionOfJson?
      split
      · contradiction
      · rename_i heq
        exact absurd (Option.some.inj heq) hne
      · rename_i heq
        cases heq
        rw [h c rfl hroom]
        rfl

/-- Every criterion is read back as it is shown. At each node the fields are
found under their names, and each is read in the room that the node leaves. -/
theorem readsBack_of_exact {c : Criterion} (h : c.Exact) : c.ReadsBack := by
  induction h with
  | @node c here below ih =>
      intro room hroom
      cases c with
      | property path =>
          rw [toJson] at hroom ⊢
          obtain ⟨room, rfl, -⟩ := exists_room_node hroom
          have hfields : (ofMembers [("name", .ofString path)]).fields?
              ["name"] = some [some (.ofString path)] :=
            fields?_ofMembers rfl (by decide)
          simp only [node, tagged, ofJson?, shown, hfields, text?_ofString,
            Option.bind_eq_bind, Option.bind_some, Option.pure_def]
      | literal v =>
          rw [toJson] at hroom ⊢
          obtain ⟨room, rfl, hfield⟩ := exists_room_node hroom
          have hfields : (ofMembers [("value", v.toJson)]).fields?
              ["value"] = some [some v.toJson] :=
            fields?_ofMembers rfl (by decide)
          have hv := Value.ofJson?_toJson here
            (hfield ("value", v.toJson) (by simp))
          simp only [node, tagged, ofJson?, shown, hfields, hv,
            Option.bind_eq_bind, Option.bind_some, Option.pure_def]
      | binary op left right =>
          rw [toJson] at hroom ⊢
          obtain ⟨room, rfl, hfield⟩ := exists_room_node hroom
          have hfields : (ofMembers [("op", .ofString op.name),
              ("left", left.toJson), ("right", right.toJson)]).fields?
              ["op", "left", "right"] = some [some (.ofString op.name),
                some left.toJson, some right.toJson] :=
            fields?_ofMembers rfl (by decide)
          have hleft := ih left (by simp [children])
            (hfield ("left", left.toJson) (by simp))
          have hright := ih right (by simp [children])
            (hfield ("right", right.toJson) (by simp))
          simp only [node, tagged, ofJson?, shown, hfields, hleft, hright,
            named?_ofString, BinaryOp.ofName?_name, Option.bind_eq_bind,
            Option.bind_some, Option.pure_def]
      | unary op operand =>
          rw [toJson] at hroom ⊢
          obtain ⟨room, rfl, hfield⟩ := exists_room_node hroom
          have hfields : (ofMembers [("op", .ofString op.name),
              ("operand", operand.toJson)]).fields? ["op", "operand"] =
              some [some (.ofString op.name), some operand.toJson] :=
            fields?_ofMembers rfl (by decide)
          have hoperand := ih operand (by simp [children])
            (hfield ("operand", operand.toJson) (by simp))
          simp only [node, tagged, ofJson?, shown, hfields, hoperand,
            named?_ofString, UnaryOp.ofName?_name, Option.bind_eq_bind,
            Option.bind_some, Option.pure_def]
      | function f operands =>
          -- the operands share the room of their list
          rw [toJson, listToJson_eq_map] at hroom ⊢
          obtain ⟨room, rfl, hfield⟩ := exists_room_node hroom
          have hfields : (ofMembers [("function", f.toJson),
              ("operands", .array (operands.map toJson))]).fields?
              ["function", "operands"] =
              some [some f.toJson, some (.array (operands.map toJson))] :=
            fields?_ofMembers rfl (by decide)
          have hf := Function.ofJson?_toJson f
            (hfield ("function", f.toJson) (by simp))
          have hoperands := listOfJson?_map
            (hfield ("operands", .array (operands.map toJson)) (by simp)) ih
          simp only [node, tagged, ofJson?, shown, hfields, hf, hoperands,
            Option.bind_eq_bind, Option.bind_some, Option.pure_def]
      | aggregate collection kind expression condition =>
          rw [toJson] at hroom ⊢
          obtain ⟨room, rfl, hfield⟩ := exists_room_node hroom
          have hfields : (ofMembers [("collection", .ofString collection),
              ("aggregate", .ofString kind.name),
              ("expression", optionToJson expression),
              ("condition", optionToJson condition)]).fields?
              ["collection", "aggregate", "expression", "condition"] =
              some [some (.ofString collection), some (.ofString kind.name),
                some (optionToJson expression),
                some (optionToJson condition)] :=
            fields?_ofMembers rfl (by decide)
          have hexpression := optionOfJson?_optionToJson
            (hfield ("expression", optionToJson expression) (by simp))
            fun d hd => ih d (by simp [children, Option.mem_def.mp hd])
          have hcondition := optionOfJson?_optionToJson
            (hfield ("condition", optionToJson condition) (by simp))
            fun d hd => ih d (by simp [children, Option.mem_def.mp hd])
          simp only [node, tagged, ofJson?, shown, hfields, hexpression, hcondition,
            text?_ofString, named?_ofString, Aggregate.ofName?_name,
            Option.bind_eq_bind, Option.bind_some, Option.pure_def]
      | within probe values =>
          rw [toJson, listToJson_eq_map] at hroom ⊢
          obtain ⟨room, rfl, hfield⟩ := exists_room_node hroom
          have hfields : (ofMembers [("probe", probe.toJson),
              ("values", .array (values.map toJson))]).fields?
              ["probe", "values"] =
              some [some probe.toJson, some (.array (values.map toJson))] :=
            fields?_ofMembers rfl (by decide)
          have hprobe := ih probe (.head _)
            (hfield ("probe", probe.toJson) (by simp))
          have hvalues := listOfJson?_map
            (hfield ("values", .array (values.map toJson)) (by simp))
            fun d hd => ih d (.tail _ hd)
          simp only [node, tagged, ofJson?, shown, hfields, hprobe, hvalues,
            Option.bind_eq_bind, Option.bind_some, Option.pure_def]

theorem Function.wellFormed_toJson (f : Function) :
    f.toJson.WellFormed := by
  cases f with
  | builtin f => exact wellFormed_tagged _ (.string _)
  | custom name => exact wellFormed_tagged _ (.string _)

theorem wellFormed_list {cs : List Criterion}
    (h : ∀ c ∈ cs, c.toJson.WellFormed) :
    (Json.array (listToJson cs)).WellFormed := by
  rw [listToJson_eq_map]
  refine .array fun j hj => ?_
  obtain ⟨c, hc, rfl⟩ := List.mem_map.mp hj
  exact h c hc

theorem wellFormed_option {c : Option Criterion}
    (h : ∀ d ∈ c, d.toJson.WellFormed) : (optionToJson c).WellFormed := by
  cases c with
  | none => exact .null
  | some c => exact h c rfl

/-- The numbers of an exact criterion are written as JSON has them. -/
theorem wellFormed_toJson {c : Criterion} (h : c.Exact) :
    c.toJson.WellFormed := by
  induction h with
  | @node c here below ih =>
      -- a node is well-formed as soon as its fields are
      cases c <;> rw [toJson] <;>
        refine wellFormed_tagged _ (wellFormed_ofMembers ?_) <;>
        simp only [List.forall_mem_cons, List.not_mem_nil, false_implies,
          implies_true, and_true]
      case property path => exact .string _
      case literal v => exact Value.wellFormed_toJson here
      case binary op left right =>
        exact ⟨.string _, ih left (by simp [children]),
          ih right (by simp [children])⟩
      case unary op operand =>
        exact ⟨.string _, ih operand (by simp [children])⟩
      case function f operands =>
        exact ⟨f.wellFormed_toJson, wellFormed_list ih⟩
      case aggregate collection kind expression condition =>
        exact ⟨.string _, .string _,
          wellFormed_option fun d hd =>
            ih d (by simp [children, Option.mem_def.mp hd]),
          wellFormed_option fun d hd =>
            ih d (by simp [children, Option.mem_def.mp hd])⟩
      case within probe values =>
        exact ⟨ih probe (.head _),
          wellFormed_list fun d hd => ih d (.tail _ hd)⟩

-- ================================================================= text

/-- What is read is the criterion as its text shows it. -/
theorem ofJsonText?_eq_shown {c : Criterion} (hexact : c.Exact)
    (hdepth : c.toJson.depth ≤ maxDepth) :
    ofJsonText? c.jsonText = some c.shown := by
  unfold ofJsonText? jsonText
  rw [parse?_pretty (wellFormed_toJson hexact), Option.bind_eq_bind,
    Option.bind_some]
  exact readsBack_of_exact hexact hdepth

/-- Reading undoes writing, for every criterion that is nested no deeper than
reading goes and holds no floating-point value. What is read is the criterion
as its text shows it. That is the criterion itself exactly when every leap
second in it ends a minute, as the text has it; any other one is read as the
next second. -/
theorem ofJsonText?_jsonText {c : Criterion} (hexact : c.Exact)
    (hdepth : c.toJson.depth ≤ maxDepth) :
    ofJsonText? c.jsonText = some c.shown
      ∧ (ofJsonText? c.jsonText = some c ↔ c.LeapsEndMinutes) := by
  have hread := ofJsonText?_eq_shown hexact hdepth
  refine ⟨hread, ?_⟩
  rw [hread, Option.some.injEq]
  exact shown_eq_self_iff hexact

/-- A property among a leap second of the year 0, a control character, the
least number of 64 bits, and a count with an object in its condition. -/
def awkward : Criterion :=
  .within (.property "größe \"A\"\n")
    [.literal (.array [.dateTime ⟨-1, 86399, 1500000000,
        DateTime.maxValue.second_lt, by decide⟩, .char '\x1f',
        .long Int64.minValue]),
      .aggregate "Orders" .count none (some (.custom "Like"
        [.literal (.object [("a", .null), ("b", .string "😀\\")]),
          .literal (.timeSpan ⟨-1⟩)]))]

theorem exact_awkward : awkward.Exact := by
  refine .node trivial (List.forall_mem_cons.mpr
    ⟨every_leaf trivial rfl, List.forall_mem_cons.mpr
      ⟨every_leaf ?_ rfl, List.forall_mem_singleton.mpr (.node trivial ?_)⟩⟩)
  · refine .node trivial (List.forall_mem_cons.mpr
      ⟨Value.every_leaf ⟨by decide, by decide⟩ rfl, List.forall_mem_cons.mpr
        ⟨Value.every_leaf trivial rfl, List.forall_mem_singleton.mpr
          (Value.every_leaf trivial rfl)⟩⟩)
  · refine List.forall_mem_singleton.mpr (.node trivial
      (List.forall_mem_cons.mpr ⟨every_leaf (.node ?_ ?_) rfl,
        List.forall_mem_singleton.mpr (every_leaf (Value.every_leaf trivial rfl) rfl)⟩))
    · show List.Pairwise (· < ·) ["a", "b"]
      decide
    · exact List.forall_mem_cons.mpr ⟨Value.every_leaf trivial rfl,
        List.forall_mem_singleton.mpr (Value.every_leaf trivial rfl)⟩

/-- Its one leap second, the last second of a day, ends a minute. -/
theorem leapsEndMinutes_awkward : awkward.LeapsEndMinutes :=
  (shown_eq_self_iff exact_awkward).mp (by rfl)

/-- The awkward criterion comes back as it was. -/
theorem ofJsonText?_awkward :
    awkward.toJson.depth = 13
      ∧ ofJsonText? awkward.jsonText = some awkward :=
  ⟨by decide, (ofJsonText?_jsonText exact_awkward (by decide)).2.mpr
    leapsEndMinutes_awkward⟩

/-- A second and a half after noon, in a leap second that no clock has. -/
def leapAtNoon : DateTime :=
  ⟨735778, 43200, 1500000000, by decide, by decide⟩

/-- The leap second at noon does not come back: it is read as the next
second, which is written in the same way. -/
theorem ofJsonText?_leapAtNoon :
    let noon := Criterion.literal (.dateTime leapAtNoon)
    let next := Criterion.literal (.dateTime
      ⟨735778, 43201, 500000000, by decide, by decide⟩)
    leapAtNoon.iso = "2015-06-30T12:00:01.500"
      ∧ noon.Exact ∧ noon.toJson.depth ≤ maxDepth
      ∧ noon.jsonText = next.jsonText
      ∧ ofJsonText? noon.jsonText = some next
      ∧ ofJsonText? noon.jsonText ≠ some noon := by
  intro noon next
  have hexact : noon.Exact :=
    every_leaf (Value.every_leaf ⟨by decide, by decide⟩ rfl) rfl
  have hdepth : noon.toJson.depth ≤ maxDepth := by decide
  have hread : ofJsonText? noon.jsonText = some next :=
    ofJsonText?_eq_shown hexact hdepth
  refine ⟨by decide +kernel, hexact, hdepth, by decide +kernel, hread, ?_⟩
  rw [hread, Ne, Option.some.injEq]
  intro hsame
  have hsecond := congrArg DateTime.second
    (Value.dateTime.inj (Criterion.literal.inj hsame))
  exact absurd hsecond (by decide)

end Criterion

end FilterCriteria
