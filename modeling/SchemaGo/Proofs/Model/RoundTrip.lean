import Mathlib.Data.Option.Basic
import SchemaGo.Model.Decode
import SchemaGo.Model.Encode
import SchemaGo.Proofs.Json.Decoder
import SchemaGo.Proofs.Model.Tree
import SchemaGo.Proofs.OrderedSet

/-! Models and indexes as documents. A model whose maps have distinct keys is read back from its JSON form,
with the order of everything in it, and so is an index of such models. Every model that is read is one. -/

namespace SchemaGo.Model

open Json (Decoder Raw Value)
open Json.Decoder (ReadsBack RoundTrip Yields field field_optional field_present field_rawFields
  forall_mem_present list optional present readsBack_string record record_eq_some)

/-! ### Types -/

theorem TypeTag.lt_asymm (a b : TypeTag) (h : a < b) : ¬ b < a :=
  Nat.lt_asymm h

theorem TypeTag.readsBack (t : TypeTag) : ReadsBack TypeTag.decoder TypeTag.json t := by
  intro room _
  cases t <;> rfl

theorem TypeTag.yields (room : Nat) : Yields TypeTag.decoder TypeTag.json (fun _ => True) room :=
  fun _ _ _ => ⟨trivial, Nat.zero_le room⟩

theorem ModelType.readsBack (t : ModelType) : ReadsBack ModelType.decoder ModelType.json t := by
  intro room hroom
  cases t with
  | single tag => exact congrArg (Option.map ModelType.single) (tag.readsBack room hroom)
  | mixed tags =>
    have htags := ReadsBack.list (fun tag _ => TypeTag.readsBack tag) (l := tags.toList) room hroom
    have hset := OrderedSet.ofList_toList TypeTag.lt_asymm tags
    exact (congrArg (Option.map fun l => ModelType.mixed (.ofList l)) htags).trans
      (congrArg (fun set => some (ModelType.mixed set)) hset)

theorem ModelType.json_ne_null (t : ModelType) : t.json ≠ .null := by
  cases t <;> rintro ⟨⟩

theorem ModelType.yields (room : Nat) : Yields ModelType.decoder ModelType.json (fun _ => True) room := by
  intro r t h
  refine ⟨trivial, ?_⟩
  unfold ModelType.decoder at h
  split at h
  · next items =>
    obtain ⟨l, hl, rfl⟩ := Option.map_eq_some_iff.1 h
    have hdepth := (Yields.list fun inner _ => TypeTag.yields inner) _ l hl
    exact Value.depth_array_of_flat (fun _ => rfl) _ hdepth.2
  · obtain ⟨tag, -, rfl⟩ := Option.map_eq_some_iff.1 h
    exact Nat.zero_le room

namespace ModelNode

/-! ### The JSON form as fields -/

theorem entriesJson_eq (l : List (String × ModelNode)) :
    entriesJson l = l.map fun p => (p.1, p.2.json) := by
  induction l with
  | nil => rfl
  | cons p r ih => rw [entriesJson, ih, List.map_cons]

theorem listJson_eq (l : List ModelNode) : listJson l = l.map json := by
  induction l with
  | nil => rfl
  | cons n r ih => rw [listJson, ih, List.map_cons]

theorem optionJson_eq (o : Option ModelNode) : optionJson o = o.map json := by
  cases o <;> rfl

theorem fieldMembers_nil : Value.fieldMembers [] = [] :=
  rfl

theorem fieldMembers_cons (key : String) (o : Option Value) (fields : List (String × Option Value)) :
    Value.fieldMembers ((key, o) :: fields) = optionField key o ++ Value.fieldMembers fields := by
  cases o <;> rfl

theorem objectField_entriesJson (key : String) (l : List (String × ModelNode)) :
    objectField key (entriesJson l) = optionField key (present (fun l => .object (entriesJson l)) l) := by
  cases l <;> rfl

theorem arrayField_map {α : Type} (key : String) (write : α → Value) (l : List α) :
    arrayField key (l.map write) = optionField key (present (fun l => .array (l.map write)) l) := by
  cases l <;> rfl

/-- The fields of the JSON form in their order, absent ones `none`. -/
def jsonFields (n : ModelNode) : List (String × Option Value) :=
  [("$id", n.id.map .string),
    ("type", n.type.map ModelType.json),
    ("properties", present (fun l => .object (entriesJson l)) n.properties),
    ("required", present (fun l => .array (l.map .string)) n.required.toList),
    ("additionalProperties", n.additionalProperties.map json),
    ("patternProperties", present (fun l => .object (entriesJson l)) n.patternProperties),
    ("items", n.items.map json),
    ("tupleItems", present (fun l => .array (l.map json)) n.tupleItems),
    ("variants", present (fun l => .array (l.map json)) n.variants),
    ("$ref", n.reference.map .string),
    ("enum", n.enumValues.map .array)]

theorem json_ne_null (n : ModelNode) : n.json ≠ .null := by
  cases n
  rintro ⟨⟩

theorem keys_jsonFields (n : ModelNode) : Keyed.keys n.jsonFields = fieldNames :=
  rfl

theorem distinct_jsonFields (n : ModelNode) : Keyed.Distinct n.jsonFields := by
  rw [Keyed.Distinct, keys_jsonFields]
  decide

theorem json_eq (n : ModelNode) : n.json = .object (Value.fieldMembers n.jsonFields) := by
  obtain ⟨id, type, properties, required, additional, patterns, items, tuple, variants, reference,
    values⟩ := n
  simp only [json, jsonFields, fieldMembers_cons, fieldMembers_nil, objectField_entriesJson,
    arrayField_map, listJson_eq, optionJson_eq, List.append_assoc, List.append_nil]

/-! ### Nodes that are written and read back -/

/-- No map in the node and below it has two entries of one key. -/
inductive DistinctKeys : ModelNode → Prop where
  | intro {n : ModelNode} (properties : Keyed.Distinct n.properties)
      (patternProperties : Keyed.Distinct n.patternProperties)
      (enumValues : ∀ l ∈ n.enumValues, ∀ v ∈ l, v.DistinctKeys)
      (children : ∀ c ∈ n.children, c.DistinctKeys) : n.DistinctKeys

theorem listDecoder_eq : listDecoder = list decoder := by
  funext room r
  cases room <;> cases r <;> rfl

theorem readsBack_list {l : List ModelNode} (h : ∀ c ∈ l, ReadsBack decoder json c) :
    ReadsBack listDecoder (fun l => .array (l.map json)) l :=
  listDecoder_eq ▸ ReadsBack.list h

theorem readsBack_entries {l : List (String × ModelNode)} (keys : Keyed.Distinct l)
    (h : ∀ p ∈ l, ReadsBack decoder json p.2) :
    ReadsBack entriesDecoder (fun l => .object (entriesJson l)) l := by
  intro room hroom
  obtain ⟨inner, rfl, hinner⟩ := Value.depth_object_le_iff.1 hroom
  rw [entriesJson_eq, List.forall_mem_map] at hinner
  have hentries := Raw.entries?_rawMembers (entriesJson l)
  rw [entriesJson_eq, List.map_map] at hentries
  have hread := Json.mapM_entries_of_forall (f := decoder inner) (g := fun c => c.json.raw)
    fun p hp => h p hp inner (hinner p hp)
  simp only [Value.raw, entriesJson_eq, entriesDecoder, hentries, Option.bind_eq_bind, Option.bind_some,
    Function.comp_def, hread, (Keyed.ofList_eq_self_iff l).2 keys]
  rfl

theorem readsBack_values {l : List Value} (h : ∀ v ∈ l, v.DistinctKeys) :
    ReadsBack (list Raw.value?) .array l := by
  have hlist := ReadsBack.list fun v hv => Json.Decoder.readsBack_value (h v hv)
  simpa using hlist

/-- The fields of the JSON form give the node. -/
theorem ofFields_jsonFields {n : ModelNode} (properties : Keyed.Distinct n.properties)
    (patternProperties : Keyed.Distinct n.patternProperties)
    (enumValues : ∀ l ∈ n.enumValues, ∀ v ∈ l, v.DistinctKeys)
    (children : ∀ c ∈ n.children, ReadsBack decoder json c) {room : Nat}
    (hroom : ∀ f ∈ n.jsonFields, ∀ v ∈ f.2, v.raw.depth ≤ room) :
    ofFields room (n.jsonFields.map fun f => f.2.map Value.raw) (decoder room) (listDecoder room)
      (entriesDecoder room) = some n := by
  simp only [children_eq, List.forall_mem_append, List.forall_mem_map, Option.mem_toList] at children
  obtain ⟨⟨⟨⟨⟨entries, additional⟩, patterns⟩, items⟩, tuple⟩, variants⟩ := children
  have hid := field_optional (i := 0) hroom rfl (by rintro _ ⟨⟩) fun s _ => readsBack_string s room
  have htype := field_optional (i := 1) hroom rfl ModelType.json_ne_null fun t _ => t.readsBack room
  have hproperties := field_present (i := 2) hroom rfl (readsBack_entries properties entries room)
  have hrequired := field_present (i := 3) hroom rfl (ReadsBack.list (fun s _ => readsBack_string s) room)
  have hadditional := field_optional (d := fun _ => decoder room) (i := 4) hroom rfl json_ne_null
    fun c hc => additional c hc room
  have hpatterns := field_present (i := 5) hroom rfl (readsBack_entries patternProperties patterns room)
  have hitems := field_optional (d := fun _ => decoder room) (i := 6) hroom rfl json_ne_null
    fun c hc => items c hc room
  have htuple := field_present (i := 7) hroom rfl (readsBack_list tuple room)
  have hvariants := field_present (i := 8) hroom rfl (readsBack_list variants room)
  have hreference := field_optional (i := 9) hroom rfl (by rintro _ ⟨⟩) fun s _ => readsBack_string s room
  have henum := field_optional (i := 10) hroom rfl (by rintro _ ⟨⟩)
    fun l hl => readsBack_values (enumValues l hl) room
  have hset := OrderedSet.ofList_toList (fun _ _ => String.lt_asymm) n.required
  simp only [ofFields, hid, htype, hproperties, hrequired, hadditional, hpatterns, hitems, htuple, hvariants,
    hreference, henum, hset, Option.bind_eq_bind, Option.bind_some]
  cases n
  rfl

theorem readsBack {n : ModelNode} (h : n.DistinctKeys) : ReadsBack decoder json n := by
  induction h with
  | @intro n properties patternProperties enumValues children ih =>
    intro room hroom
    rw [json_eq] at hroom ⊢
    obtain ⟨room, rfl, hinner⟩ := Value.depth_object_le_iff.1 hroom
    have hrecord := Json.Decoder.record_fieldMembers n.distinct_jsonFields room
    rw [keys_jsonFields] at hrecord
    have hfields : ∀ f ∈ n.jsonFields, ∀ v ∈ f.2, v.raw.depth ≤ room := by
      rintro ⟨key, _⟩ hf v rfl
      exact hinner (key, v) (Value.mem_fieldMembers.2 hf)
    simp only [decoder, hrecord, Option.bind_eq_bind, Option.bind_some]
    exact ofFields_jsonFields properties patternProperties enumValues ih hfields

/-! ### Nodes that are read and written -/

theorem yields_entries {room : Nat} (h : ∀ inner < room, Yields decoder json DistinctKeys inner) :
    Yields entriesDecoder (fun l => .object (entriesJson l))
      (fun l => Keyed.Distinct l ∧ ∀ p ∈ l, p.2.DistinctKeys) room := by
  intro r l hl
  cases room with
  | zero => cases r <;> cases hl
  | succ room =>
    cases r with
    | object members =>
      simp only [entriesDecoder, Option.bind_eq_bind, Option.bind_eq_some_iff] at hl
      obtain ⟨entries, -, values, hvalues, hl⟩ := hl
      cases hl
      have hparts : ∀ p ∈ Keyed.ofList values, p.2.DistinctKeys ∧ p.2.json.raw.depth ≤ room := by
        intro p hp
        obtain ⟨r, hr⟩ := Json.exists_of_mapM_entries hvalues p (Keyed.mem_of_mem_ofList hp)
        exact h room (Nat.lt_succ_self room) r p.2 hr
      refine ⟨⟨Keyed.distinct_ofList values, fun p hp => (hparts p hp).1⟩,
        Value.depth_object_le_iff.2 ⟨room, rfl, ?_⟩⟩
      rw [entriesJson_eq, List.forall_mem_map]
      exact fun p hp => (hparts p hp).2
    | _ => cases hl

theorem yields_values (room : Nat) :
    Yields (list Raw.value?) .array (fun l => ∀ v ∈ l, v.DistinctKeys) room := by
  have hlist : Yields (list Raw.value?) (fun l => .array (l.map fun v => v))
      (fun l => ∀ v ∈ l, v.DistinctKeys) room :=
    Yields.list fun inner _ => Json.Decoder.yields_value inner
  simpa using hlist

/-- The fields that a node is made of. -/
theorem ofFields_eq_some {room : Nat} {fields : List (Option Raw)} {node : Raw → Option ModelNode}
    {nodes : Raw → Option (List ModelNode)} {entries : Raw → Option (List (String × ModelNode))}
    {n : ModelNode} (h : ofFields room fields node nodes entries = some n) :
    field fields 0 none (optional Decoder.string room) = some n.id ∧
    field fields 1 none (optional ModelType.decoder room) = some n.type ∧
    field fields 2 [] entries = some n.properties ∧
    (∃ l, field fields 3 [] (list Decoder.string room) = some l ∧ n.required = .ofList l) ∧
    field fields 4 none (optional (fun _ => node) room) = some n.additionalProperties ∧
    field fields 5 [] entries = some n.patternProperties ∧
    field fields 6 none (optional (fun _ => node) room) = some n.items ∧
    field fields 7 [] nodes = some n.tupleItems ∧
    field fields 8 [] nodes = some n.variants ∧
    field fields 9 none (optional Decoder.string room) = some n.reference ∧
    field fields 10 none (optional (list Raw.value?) room) = some n.enumValues := by
  obtain ⟨_, h0, h⟩ := Option.bind_eq_some_iff.1 h
  obtain ⟨_, h1, h⟩ := Option.bind_eq_some_iff.1 h
  obtain ⟨_, h2, h⟩ := Option.bind_eq_some_iff.1 h
  obtain ⟨l, h3, h⟩ := Option.bind_eq_some_iff.1 h
  obtain ⟨_, h4, h⟩ := Option.bind_eq_some_iff.1 h
  obtain ⟨_, h5, h⟩ := Option.bind_eq_some_iff.1 h
  obtain ⟨_, h6, h⟩ := Option.bind_eq_some_iff.1 h
  obtain ⟨_, h7, h⟩ := Option.bind_eq_some_iff.1 h
  obtain ⟨_, h8, h⟩ := Option.bind_eq_some_iff.1 h
  obtain ⟨_, h9, h⟩ := Option.bind_eq_some_iff.1 h
  obtain ⟨_, h10, h⟩ := Option.bind_eq_some_iff.1 h
  cases h
  exact ⟨h0, h1, h2, ⟨l, h3, rfl⟩, h4, h5, h6, h7, h8, h9, h10⟩

/-- The fields of a node that is read have distinct keys, and are no deeper than the room. -/
theorem distinctKeys_of_ofFields {room : Nat} {fields : List (Option Raw)} {n : ModelNode}
    (h : ofFields room fields (decoder room) (listDecoder room) (entriesDecoder room) = some n)
    (below : ∀ inner ≤ room, Yields decoder json DistinctKeys inner) :
    n.DistinctKeys ∧ ∀ f ∈ n.jsonFields, ∀ v ∈ f.2, v.raw.depth ≤ room := by
  obtain ⟨hid, htype, hproperties, ⟨l, hl, hrequired⟩, hadditional, hpatterns, hitems, htuple, hvariants,
    hreference, henum⟩ := ofFields_eq_some h
  have hnode : Yields (fun _ => decoder room) json DistinctKeys room := below room (Nat.le_refl room)
  have hinner : ∀ inner < room, Yields decoder json DistinctKeys inner := fun inner hi => below inner hi.le
  have hnodes : Yields listDecoder (fun l => .array (l.map json)) (fun l => ∀ c ∈ l, c.DistinctKeys) room :=
    listDecoder_eq ▸ Yields.list hinner
  have id := (Json.Decoder.yields_string room).field_optional hid
  have type := (ModelType.yields room).field_optional htype
  have properties := (yields_entries hinner).field_present ⟨.nil, by simp⟩ hproperties
  have required := (Yields.list fun inner _ => Json.Decoder.yields_string inner).field_present (by simp) hl
  have additional := hnode.field_optional hadditional
  have patterns := (yields_entries hinner).field_present ⟨.nil, by simp⟩ hpatterns
  have items := hnode.field_optional hitems
  have tuple := hnodes.field_present (by simp) htuple
  have variants := hnodes.field_present (by simp) hvariants
  have reference := (Json.Decoder.yields_string room).field_optional hreference
  have values := (yields_values room).field_optional henum
  -- The set is written in its own order, which need not be that of the list it was read from.
  have set : n.required.toList = [] ∨ (Value.array (n.required.toList.map .string)).raw.depth ≤ room := by
    rcases required.2 with rfl | hdepth
    · exact .inl (by rw [hrequired]; rfl)
    · exact .inr (Value.depth_array_of_flat (fun _ => rfl) _ hdepth)
  constructor
  · refine .intro properties.1.1 patterns.1.1 (fun l hl => (values l hl).1) ?_
    simp only [children_eq, List.forall_mem_append, List.forall_mem_map, Option.mem_toList]
    exact ⟨⟨⟨⟨⟨properties.1.2, fun c hc => (additional c hc).1⟩, patterns.1.2⟩,
      fun c hc => (items c hc).1⟩, tuple.1⟩, variants.1⟩
  · simp only [jsonFields, List.forall_mem_cons, Option.forall_mem_map]
    exact ⟨fun a ha => (id a ha).2, fun a ha => (type a ha).2, forall_mem_present properties.2,
      forall_mem_present set, fun a ha => (additional a ha).2, forall_mem_present patterns.2,
      fun a ha => (items a ha).2, forall_mem_present tuple.2, forall_mem_present variants.2,
      fun a ha => (reference a ha).2, fun a ha => (values a ha).2, by simp⟩

theorem yields (room : Nat) : Yields decoder json DistinctKeys room := by
  induction room using Nat.strongRecOn with
  | ind room ih =>
    intro r n h
    cases room with
    | zero => cases h
    | succ room =>
      rw [decoder, Option.bind_eq_bind, Option.bind_eq_some_iff] at h
      obtain ⟨⟨_, fields⟩, -, h⟩ := h
      obtain ⟨hkeys, hdepth⟩ := distinctKeys_of_ofFields h fun inner hi => ih inner (Nat.lt_succ_of_le hi)
      refine ⟨hkeys, ?_⟩
      rw [json_eq]
      refine Value.depth_object_le_iff.2 ⟨room, rfl, ?_⟩
      rintro ⟨key, v⟩ hm
      exact hdepth (key, some v) (Value.mem_fieldMembers.1 hm) v rfl

end ModelNode

/-! ### Indexes -/

namespace Index

/-- No map in a model has two entries of one key; the index itself has none by its type. -/
def DistinctKeys (x : Index) : Prop :=
  ∀ m ∈ x.models, m.DistinctKeys

def jsonFields (x : Index) : List (String × Option Value) :=
  [("models", some (.object (ModelNode.entriesJson x.entries)))]

theorem distinct_jsonFields (x : Index) : Keyed.Distinct x.jsonFields := by
  simp [Keyed.Distinct, Keyed.keys, jsonFields]

theorem json_eq (x : Index) : x.json = .object (Value.fieldMembers x.jsonFields) :=
  rfl

theorem ofEntries_entries (x : Index) : ofEntries x.entries = x := by
  obtain ⟨entries, distinct⟩ := x
  rw [ofEntries, mk.injEq]
  exact (Keyed.ofList_eq_self_iff entries).2 distinct

theorem readsBack {x : Index} (h : x.DistinctKeys) : ReadsBack decoder json x := by
  intro room hroom
  rw [json_eq] at hroom ⊢
  obtain ⟨room, rfl, hinner⟩ := Value.depth_object_le_iff.1 hroom
  have hrecord : record ["models"] (room + 1) (Value.object (Value.fieldMembers x.jsonFields)).raw = _ :=
    Json.Decoder.record_fieldMembers x.distinct_jsonFields room
  have hmodels : ∀ p ∈ x.entries, ReadsBack ModelNode.decoder ModelNode.json p.2 :=
    fun p hp => ModelNode.readsBack (h p.2 (List.mem_map.2 ⟨p, hp, rfl⟩))
  have hentries := ModelNode.readsBack_entries x.distinct hmodels room (hinner _ List.mem_cons_self)
  have hfield := field_rawFields (i := 0) (l := x.jsonFields) rfl [] (ModelNode.entriesDecoder room)
  rw [Option.elim_some, hentries] at hfield
  simp only [decoder, hrecord, hfield, Option.bind_eq_bind, Option.bind_some, ofEntries_entries]
  rfl

/-- An index writes its entries, also if there are none, so it is at least two deep. -/
theorem distinctKeys_of_decoder {room : Nat} {r : Raw} {x : Index} (h : decoder room r = some x) :
    x.DistinctKeys ∧ x.json.raw.depth ≤ max room 2 := by
  simp only [decoder, Option.bind_eq_bind, Option.bind_eq_some_iff] at h
  obtain ⟨⟨inner, fields⟩, hrecord, l, hl, hx⟩ := h
  cases hx
  obtain rfl := record_eq_some hrecord
  obtain ⟨⟨hkeys, hmodels⟩, hdepth⟩ :=
    (ModelNode.yields_entries fun inner _ => ModelNode.yields inner).field_present ⟨.nil, by simp⟩ hl
  have hentries : (ofEntries l).entries = l := (Keyed.ofList_eq_self_iff l).2 hkeys
  constructor
  · intro m hm
    rw [models, hentries] at hm
    obtain ⟨p, hp, rfl⟩ := List.mem_map.1 hm
    exact hmodels p hp
  · rw [json, hentries]
    refine Value.depth_object_le_iff.2 ⟨max inner 1, by omega, ?_⟩
    rw [List.forall_mem_singleton]
    rcases hdepth with rfl | hdepth
    · exact Nat.le_max_right inner 1
    · exact Nat.le_trans hdepth (Nat.le_max_left inner 1)

end Index

/-! ### Main result -/

/-- Models and indexes are read back from their JSON form, as texts and as values. -/
theorem models_round_trip :
    RoundTrip ModelNode.decoder ModelNode.json ModelNode.DistinctKeys ∧
      RoundTrip Index.decoder Index.json Index.DistinctKeys := by
  constructor
  · exact Json.Decoder.roundTrip (fun _ => ModelNode.readsBack)
      (fun room r n h => (ModelNode.yields room r n h).1) fun r n h => (ModelNode.yields 127 r n h).2
  · exact Json.Decoder.roundTrip (fun _ => Index.readsBack)
      (fun _ _ _ h => (Index.distinctKeys_of_decoder h).1) fun _ _ h => (Index.distinctKeys_of_decoder h).2

/-- A set of one tag, nested models that are empty or have no values to choose from, and numbers. -/
def sample : ModelNode where
  id := some "pair"
  type := some (.mixed (.ofList [.string]))
  properties := [("b", {}), ("a", { enumValues := some [] })]
  enumValues := some
    [.number (.integer (-3)), .object [("z", .number (.double ⟨false, Nat.pow 2 52, -53⟩)), ("y", .null)]]

theorem distinctKeys_sample : sample.DistinctKeys := by
  have hleaf (l : Option (List Value)) (hl : ∀ values ∈ l, ∀ v ∈ values, v.DistinctKeys) :
      ModelNode.DistinctKeys { enumValues := l } :=
    .intro .nil .nil hl (by simp [ModelNode.children_eq])
  refine .intro (by decide) .nil ?_ ?_
  · rintro _ ⟨⟩
    simp only [List.forall_mem_cons]
    refine ⟨.number _, .object (by decide) ?_, by simp⟩
    simp only [List.forall_mem_cons]
    exact ⟨.number _, .null, by simp⟩
  · simp only [ModelNode.children_eq, sample, List.map_cons, List.map_nil, Option.toList_none,
      List.append_nil, List.forall_mem_cons]
    exact ⟨hleaf none (by rintro _ ⟨⟩), hleaf (some []) (by simp), by simp⟩

theorem models_round_trip_sample :
    sample.json.raw.depth ≤ 127 ∧ ModelNode.decoder.ofText sample.json.text = some sample := by
  have hdepth : sample.json.raw.depth ≤ 127 := by decide
  have hnumbers : sample.json.numbers = [.integer (-3), .double ⟨false, Nat.pow 2 52, -53⟩] := by
    decide
  refine ⟨hdepth, models_round_trip.1.text sample distinctKeys_sample hdepth ?_⟩
  rw [hnumbers, List.forall_mem_cons, List.forall_mem_singleton]
  refine ⟨Number.readsBack_integer (by decide) (by decide), ?_⟩
  exact ⟨⟨false, [0], [5], none⟩, by decide +kernel, by decide +kernel⟩

end SchemaGo.Model
