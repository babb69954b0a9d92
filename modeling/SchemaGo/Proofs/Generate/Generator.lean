import SchemaGo.Proofs.Model.Reachable
import SchemaGo.Proofs.Render.Account
import SchemaGo.Proofs.Render.Alike
import SchemaGo.Proofs.Render.Plain

/-! The results of a generator. Every reachable model has one. An entry of an index that insertions have
built is the only reachable model of its name, so its result can be looked up by the name. -/

namespace SchemaGo.Generate

open Model (Index ModelNode)
open Render (Call Dependencies EnumPreset EnumSite Recording RenderError StructPreset StructSite enumShape
  modelTypeName modelTypeName_alike plainEnum plainStruct structShape)

theorem collect_of_run {run : ExceptT RenderError Recording String} {result : Except RenderError String}
    {d : Dependencies} (h : run.run.run {} = (result, d)) :
    collect run = result.map fun text => ⟨text, d.toList⟩ := by
  rw [collect, h]

theorem collect_refused {α : Type} {shape : Except RenderError α} {e : RenderError}
    (h : shape = .error e) (f : α → ExceptT RenderError Recording String) :
    collect (liftExcept shape >>= f) = .error e := by
  subst h
  rfl

theorem exists_of_isOk {ε α : Type} {e : Except ε α} (h : e.isOk) : ∃ a, e = .ok a := by
  cases e with
  | error e => cases h
  | ok a => exact ⟨a, rfl⟩

theorem eq_ok_text_of_map {e : Except RenderError String} {o : Output}
    (h : e.map (fun text => (⟨text, []⟩ : Output)) = .ok o) : e = .ok o.text := by
  cases e with
  | error e => cases h
  | ok text =>
    obtain rfl := Except.ok.inj h
    rfl

namespace Generator

theorem renderStruct_plain {g : Generator} (plain : g.presets = []) (m : ModelNode) (x : Index) :
    g.renderStruct m x = (plainStruct (g.renderer x) (x.nameNested m)).map fun text => ⟨text, []⟩ := by
  rw [renderStruct, structStack, plain]
  exact (congrArg collect (Render.renderStruct_default _ _)).trans (collect_liftExcept _)

theorem renderEnum_plain {g : Generator} (plain : g.presets = []) (m : ModelNode) (x : Index) :
    g.renderEnum m x = (plainEnum (g.renderer x) (x.nameNested m)).map fun text => ⟨text, []⟩ := by
  rw [renderEnum, enumStack, plain]
  exact (congrArg collect (Render.renderEnum_default _ _)).trans (collect_liftExcept _)

/-- The text of a struct that is rendered without presets of the caller. -/
theorem plainStruct_of_ok {g : Generator} (plain : g.presets = []) {m : ModelNode} {x : Index} {o : Output}
    (h : g.renderStruct m x = .ok o) : plainStruct (g.renderer x) (x.nameNested m) = .ok o.text := by
  rw [renderStruct_plain plain] at h
  exact eq_ok_text_of_map h

/-- The text of an enum that is rendered without presets of the caller. -/
theorem plainEnum_of_ok {g : Generator} (plain : g.presets = []) {m : ModelNode} {x : Index} {o : Output}
    (h : g.renderEnum m x = .ok o) : plainEnum (g.renderer x) (x.nameNested m) = .ok o.text := by
  rw [renderEnum_plain plain] at h
  exact eq_ok_text_of_map h

/-- A model that is rendered has a type name. -/
theorem exists_modelTypeName {g : Generator} {m : ModelNode} {x : Index} {o : Output}
    (h : g.render m x = .ok o) : ∃ type, modelTypeName m = .ok type := by
  cases hname : modelTypeName m with
  | ok type => exact ⟨type, rfl⟩
  | error e =>
    have hnested : modelTypeName (x.nameNested m) = .error e :=
      (modelTypeName_alike (ModelNode.alike_nested x m)).trans hname
    have hrefused : g.render m x = .error e ∨ m.kind = .other := by
      unfold render
      split
      · exact .inl (collect_refused (by rw [structShape, hnested]; rfl) _)
      · exact .inl (collect_refused (by rw [enumShape, hnested]; rfl) _)
      · next hkind => exact .inr hkind
    rcases hrefused with hrefused | hkind
    · exact absurd (h.symm.trans hrefused) (by simp)
    · simp [render, hkind] at h

theorem render_mem_generate (g : Generator) {x : Index} {d : ModelNode}
    (h : d ∈ x.withContextNames.reachable) :
    (g.render d x.withContextNames).map (outputModel d) ∈ g.generate x :=
  List.mem_map.2 ⟨d, h, rfl⟩

/-- The results stand in the order of the models. -/
theorem zip_generate (g : Generator) (x : Index) :
    x.withContextNames.reachable.zip (g.generate x) =
      x.withContextNames.reachable.map fun d =>
        (d, (g.render d x.withContextNames).map (outputModel d)) := by
  simpa [generate] using
    List.zip_map' (f := id) (g := fun d => (g.render d x.withContextNames).map (outputModel d))
      (l := x.withContextNames.reachable)

/-- The result of the first reachable model of a name. -/
def resultOf? (g : Generator) (x : Index) (name : String) : Option (Except RenderError OutputModel) :=
  ((x.withContextNames.reachable.zip (g.generate x)).find? (·.1.id = some name)).map (·.2)

theorem resultOf?_entry (g : Generator) {x : Index} (hx : x.withContextNames.KeyedByName) {key : String}
    {d : ModelNode} (hd : x.withContextNames.get? key = some d) :
    g.resultOf? x key = some ((g.render d x.withContextNames).map (outputModel d)) := by
  have hentry := Index.get?_iff_mem.1 hd
  have hreach : d ∈ x.withContextNames.reachable :=
    Index.mem_reachable_of_model (List.mem_map.2 ⟨(key, d), hentry, rfl⟩)
  have hid : d.id = some key := hx (key, d) hentry
  have hfind : x.withContextNames.reachable.find? (fun c => c.id = some key) = some d := by
    cases hc : x.withContextNames.reachable.find? (fun c => c.id = some key) with
    | none => exact absurd (by simpa using hid) (List.find?_eq_none.1 hc d hreach)
    | some c =>
      have hcid : c.id = some key := by simpa using List.find?_some hc
      rw [Index.eq_of_reachable hx hd (List.mem_of_find?_eq_some hc) hcid]
  rw [resultOf?, zip_generate, List.find?_map]
  simp only [Function.comp_def, hfind, Option.map_some]

/-- The invocations of hooks while a model is rendered as a struct. -/
def structCalls (g : Generator) (m : ModelNode) (x : Index) : List (Call StructSite) :=
  Render.accountOf (Render.renderStruct (g.renderer x) (g.structStack.mapStages StructPreset.logged)
    (x.nameNested m))

/-- The invocations of hooks while a model is rendered as an enum. -/
def enumCalls (g : Generator) (m : ModelNode) (x : Index) : List (Call EnumSite) :=
  Render.accountOf (Render.renderEnum (g.renderer x) (g.enumStack.mapStages EnumPreset.logged)
    (x.nameNested m))

end Generator

end SchemaGo.Generate
