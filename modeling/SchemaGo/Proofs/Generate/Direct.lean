import SchemaGo.Proofs.Generate.Closed
import SchemaGo.Proofs.Generate.InlineModel
import SchemaGo.Proofs.Model.Settled
import SchemaGo.Proofs.Render.Alike
import SchemaGo.Proofs.Type.Alias

/-! Rendering a model directly and within its document. Within the document all models are named first,
while a direct rendering names only what is nested in the model itself and goes by the index as it is.
Without presets of the caller the two results of a struct or an enum differ in the types of fields at
most. They do differ if an alias that a field refers to holds models without a name, and if a name that
the model gives to a nested one is given within another entry before. -/

namespace SchemaGo.Generate

open Model (Index ModelNode)
open Model.ModelNode (Alike ModelNamed modelNamed_nameNested)
open Render (fieldTypes isOk_structShape plainEnum_congr plainStruct_eq_iff structShape)

/-- The direct rendering of a model gives the result that its document has under the model's name. -/
def DirectAgrees (g : Generator) (x : Index) (m : ModelNode) : Prop :=
  ∀ name, m.id = some name → g.resultOf? x name = some ((g.render m x).map (outputModel m))

theorem modelNamed_get? {x : Index} {key : String} {m d : ModelNode} (hm : x.get? key = some m)
    (hd : x.withContextNames.get? key = some d) : ModelNamed m d := by
  obtain ⟨taken, hnamed⟩ := x.get?_withContextNames key
  rw [hd, hm, Option.map_some, Option.some.injEq] at hnamed
  rw [hnamed]
  exact modelNamed_nameNested m taken

theorem map_injective {ε α β : Type} {f : α → β} (hf : Function.Injective f) :
    Function.Injective (Except.map f : Except ε α → Except ε β) := by
  rintro (e | a) (e' | a') h
  · simpa [Except.map] using h
  · cases h
  · cases h
  · rw [hf (Except.ok.inj h)]

theorem outputModel_injective (m : ModelNode) : Function.Injective (outputModel m) := by
  rintro ⟨text, dependencies⟩ ⟨text', dependencies'⟩ h
  obtain ⟨rfl, rfl⟩ : text = text' ∧ dependencies = dependencies' := by simpa [outputModel] using h
  rfl

theorem output_injective : Function.Injective fun text : String => (⟨text, []⟩ : Output) :=
  fun _ _ h => congrArg Output.text h

section

variable {g : Generator} {x : Index} {key : String} {m d : ModelNode}

theorem directAgrees_iff_render (hx : x.KeyedByName) (hm : x.get? key = some m)
    (hd : x.withContextNames.get? key = some d) :
    DirectAgrees g x m ↔ g.render m x = g.render d x.withContextNames := by
  have hid : m.id = some key := hx (key, m) (Index.get?_iff_mem.1 hm)
  have hout : outputModel d = outputModel m := by
    funext o
    simp only [outputModel, (modelNamed_get? hm hd).id_eq]
  have hresult := g.resultOf?_entry hx.withContextNames hd
  constructor
  · intro h
    have hsame := (h key hid).symm.trans hresult
    rw [hout] at hsame
    exact map_injective (outputModel_injective m) (Option.some.inj hsame)
  · intro h name hname
    obtain rfl : key = name := Option.some.inj (hid.symm.trans hname)
    rw [hresult, h, hout]

/-- Within the document nothing is left to name. -/
theorem nameNested_named (hid : m.id.isSome) (hm : x.get? key = some m)
    (hd : x.withContextNames.get? key = some d) : x.withContextNames.nameNested d = d :=
  ModelNode.nameNested_settled ((modelNamed_get? hm hd).settled hid) _

theorem alike_nameNested (hm : x.get? key = some m) (hd : x.withContextNames.get? key = some d) :
    Alike (x.nameNested m) d := by
  have hdirect := modelNamed_nameNested m x.ids
  have hnamed := modelNamed_get? hm hd
  exact ⟨hnamed.id_eq.trans hdirect.id_eq.symm, hnamed.unnamed_eq.trans hdirect.unnamed_eq.symm⟩

/-- The two renderings of an entry are equal exactly if the types of its fields are written alike, or if
both fail; for an enum they are always equal. -/
theorem render_eq_iff (plain : g.presets = []) (hx : x.KeyedByName) (hm : x.get? key = some m)
    (hd : x.withContextNames.get? key = some d) (hkind : m.kind ≠ .other) :
    g.render m x = g.render d x.withContextNames ↔
      (m.kind = .struct → (structShape m).isOk →
        fieldTypes x (x.nameNested m) = fieldTypes x.withContextNames d) := by
  have hid : m.id = some key := hx (key, m) (Index.get?_iff_mem.1 hm)
  have hnested := nameNested_named (by simp [hid]) hm hd
  have halike := alike_nameNested hm hd
  have hown : Alike m (x.nameNested m) :=
    ⟨(modelNamed_nameNested m x.ids).id_eq, (modelNamed_nameNested m x.ids).unnamed_eq⟩
  have hdkind : d.kind = m.kind := by
    rw [← ModelNode.kind_unnamed d, (modelNamed_get? hm hd).unnamed_eq, ModelNode.kind_unnamed]
  unfold Generator.render
  rw [hdkind]
  cases hk : m.kind with
  | struct =>
    have htext := plainStruct_eq_iff (r := g.renderer x) (s := g.renderer x.withContextNames) rfl halike
    change g.renderStruct m x = g.renderStruct d x.withContextNames ↔ _
    rw [Generator.renderStruct_plain plain, Generator.renderStruct_plain plain, hnested,
      (map_injective output_injective).eq_iff, htext, isOk_structShape hown]
    simp only [true_implies]
    rfl
  | enum =>
    have htext := plainEnum_congr (r := g.renderer x) (s := g.renderer x.withContextNames) rfl halike
    change g.renderEnum m x = g.renderEnum d x.withContextNames ↔ _
    rw [Generator.renderEnum_plain plain, Generator.renderEnum_plain plain, hnested, htext]
    simp
  | other => exact absurd hk hkind

variable (key) in
/-- A struct whose fields have other types within its document is rendered otherwise there. -/
theorem not_directAgrees (plain : g.presets = []) (hx : x.KeyedByName) (hm : x.get? key = some m)
    (hd : x.withContextNames.get? key = some d) (hkind : m.kind = .struct)
    (hok : (structShape m).isOk)
    (hne : fieldTypes x (x.nameNested m) ≠ fieldTypes x.withContextNames d) :
    ¬ DirectAgrees g x m := by
  intro h
  have hrender := (directAgrees_iff_render hx hm hd).1 h
  exact hne ((render_eq_iff plain hx hm hd (by simp [hkind])).1 hrender hkind hok)

end

/-- An entry is rendered directly as it is within its document exactly if it is an enum, if it fails, or
if the types of its fields are written alike with the direct names and the index as it is and with the
names and the index of the document. -/
theorem direct_agrees_iff {g : Generator} (plain : g.presets = []) (l : List ModelNode) {key : String}
    {m : ModelNode} (hm : (Index.ofModels l).get? key = some m) (hkind : m.kind ≠ .other) :
    ∃ d, (Index.ofModels l).withContextNames.get? key = some d ∧
      (DirectAgrees g (Index.ofModels l) m ↔
        (m.kind = .struct → (structShape m).isOk →
          fieldTypes (Index.ofModels l) ((Index.ofModels l).nameNested m) =
            fieldTypes (Index.ofModels l).withContextNames d)) := by
  have hx := Index.keyedByName_ofModels l
  obtain ⟨taken, hd⟩ := (Index.ofModels l).get?_withContextNames key
  rw [hm, Option.map_some] at hd
  exact ⟨_, hd, (directAgrees_iff_render hx hm hd).trans (render_eq_iff plain hx hm hd hkind)⟩

/-- A list of texts under the name that `linked` refers to. -/
def texts : ModelNode where
  id := some "list"
  type := some (.single .array)
  items := some { type := some (.single .string) }

theorem direct_agrees_texts :
    ({} : Generator).presets = [] ∧ (Index.ofModels [texts, linked]).get? "s" = some linked ∧
      linked.kind ≠ .other ∧ DirectAgrees {} (Index.ofModels [texts, linked]) linked := by
  have hm : (Index.ofModels [texts, linked]).get? "s" = some linked := rfl
  have hkind : linked.kind ≠ .other := by decide
  obtain ⟨d, hd, hiff⟩ := direct_agrees_iff (g := {}) rfl [texts, linked] hm hkind
  refine ⟨rfl, hm, hkind, hiff.2 fun _ _ => ?_⟩
  obtain rfl : _ = d := Option.some.inj hd
  decide

/-- An object that holds a `point` under the key `b_c`. -/
def earlier : ModelNode where
  id := some "a"
  type := some (.single .object)
  properties := [("b_c", point)]

/-- An object that holds a `point` under the key `c`. On its own it calls the `point` `a_b_c`, and so does
`earlier`. -/
def later : ModelNode where
  id := some "a_b"
  type := some (.single .object)
  properties := [("c", point)]

/-- Within the documents the fields have the types `[]ListItem` and `ABC2`, and directly they have the
types `[]map[string]interface{}` and `ABC`. -/
theorem direct_differs :
    ¬ DirectAgrees {} (Index.ofModels [listing, linked]) linked ∧
      ¬ DirectAgrees {} (Index.ofModels [earlier, later]) later := by
  have hlinked := Index.keyedByName_ofModels [listing, linked]
  have hlater := Index.keyedByName_ofModels [earlier, later]
  exact ⟨not_directAgrees "s" rfl hlinked rfl rfl rfl (by decide) (by decide),
    not_directAgrees "a_b" rfl hlater rfl rfl rfl (by decide) (by decide)⟩

/-- The naming of the document leaves aliases without nodes to name as they are. -/
theorem alias?_withContextNames {x : Index}
    (h : ∀ a ∈ x.models, a.kind = .other → ∀ c ∈ a.descendants, c.Settled) (key : String) :
    TypeExpr.alias? x key = TypeExpr.alias? x.withContextNames key := by
  obtain ⟨taken, hd⟩ := x.get?_withContextNames key
  unfold TypeExpr.alias?
  rw [hd]
  cases hm : x.get? key with
  | none => rfl
  | some m =>
    have hmodel : m ∈ x.models := List.mem_map.2 ⟨(key, m), Index.get?_iff_mem.1 hm, rfl⟩
    have hkind : (m.nameNested taken).1.kind = m.kind := by
      rw [← ModelNode.kind_unnamed, (modelNamed_nameNested m taken).unnamed_eq, ModelNode.kind_unnamed]
    by_cases hother : m.kind = .other
    · rw [Option.map_some, ModelNode.nameNested_settled (h m hmodel hother)]
    · simp [Option.filter, hkind, hother]

/-- If no alias holds a node to name, and the document gives the nested models of an entry the names that
it gets on its own, then the direct rendering agrees. -/
theorem directAgrees_of_settled {g : Generator} (plain : g.presets = []) {x : Index}
    (hx : x.KeyedByName) {key : String} {m : ModelNode} (hm : x.get? key = some m)
    (hkind : m.kind ≠ .other) (own : x.withContextNames.get? key = some (x.nameNested m))
    (aliases : ∀ a ∈ x.models, a.kind = .other → ∀ c ∈ a.descendants, c.Settled) :
    DirectAgrees g x m := by
  refine (directAgrees_iff_render hx hm own).2 ((render_eq_iff plain hx hm own hkind).2 fun _ _ => ?_)
  have hsize : x.size = x.withContextNames.size := x.entries_named.length_eq
  unfold fieldTypes
  simp only [TypeExpr.of_congr hsize (alias?_withContextNames aliases)]

end SchemaGo.Generate
