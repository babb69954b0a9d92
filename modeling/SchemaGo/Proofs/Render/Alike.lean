import SchemaGo.Proofs.Model.ContextName
import SchemaGo.Proofs.Model.Insertion
import SchemaGo.Proofs.Render.Plain
import SchemaGo.Proofs.Render.Struct

/-! Rendering models that are alike, which differ in the names below them only. They have the same keys,
so they fail alike. Enums have one text then, and structs have one text exactly if the types of their
fields are written alike. -/

namespace SchemaGo

/-- The models differ at most in the names of the nodes below them. -/
structure Model.ModelNode.Alike (n m : ModelNode) : Prop where
  id_eq : m.id = n.id
  unnamed_eq : m.unnamed = n.unnamed

theorem Model.ModelNode.alike_nested (x : Index) (m : ModelNode) : Alike m (x.nameNested m) :=
  ⟨(modelNamed_nameNested m x.ids).id_eq, (modelNamed_nameNested m x.ids).unnamed_eq⟩

namespace Render

open Model (ModelNode)
open Model.ModelNode (Alike)

/-! ### Names of structs -/

theorem firstRepeatFrom_map {α β : Type} (f : α → β) (name : β → String) (seen : List (String × α))
    (l : List α) :
    firstRepeatFrom name (seen.map fun p => (p.1, f p.2)) (l.map f) =
      (firstRepeatFrom (fun a => name (f a)) seen l).map fun r => (r.1, f r.2.1, f r.2.2) := by
  induction l generalizing seen with
  | nil => rfl
  | cons a r ih =>
    simp only [List.map_cons, firstRepeatFrom, Keyed.get?_map]
    cases Keyed.get? seen (name (f a)) with
    | none => exact ih ((name (f a), a) :: seen)
    | some first => rfl

theorem firstRepeat?_map {α β : Type} (f : α → β) (name : β → String) (l : List α) :
    firstRepeat? name (l.map f) =
      (firstRepeat? (fun a => name (f a)) l).map fun r => (r.1, f r.2.1, f r.2.2) :=
  firstRepeatFrom_map f name [] l

/-- The type name of a struct with a name and some keys, unless two of the keys give one field name. -/
def structName (n : ModelNode) (keys : List String) : Except RenderError String := do
  let type ← modelTypeName n
  match firstRepeat? fieldName keys with
  | some (name, first, second) => .error (.fieldNameCollision type name first second)
  | none => .ok type

theorem structShape_eq (n : ModelNode) :
    structShape n =
      (structName n ((structFields n).map (·.key))).map fun type => (type, structFields n) := by
  unfold structShape structName
  rw [firstRepeat?_map]
  cases modelTypeName n with
  | error e => rfl
  | ok type =>
    dsimp only [bind, Except.bind]
    cases firstRepeat? (fun f : Field => fieldName f.key) (structFields n) <;> rfl

theorem structName_congr {n m : ModelNode} (h : m.id = n.id) (keys : List String) :
    structName m keys = structName n keys := by
  unfold structName modelTypeName
  rw [h]

theorem plainStruct_eq (r : Renderer) (n : ModelNode) :
    plainStruct r n =
      (structName n ((structFields n).map (·.key))).map fun type =>
        structDeclaration ⟨n, r, type⟩
          (structBody r (((structFields n).map fun f => ⟨n, r, f⟩).map fieldLine) "") := by
  rw [plainStruct, structShape_eq]
  cases structName n ((structFields n).map (·.key)) with
  | error e => rfl
  | ok type => simp [Except.map, Function.comp_def]

/-! ### Fields of structs -/

/-- The types of the fields of a struct as they are written with the aliases of an index. -/
def fieldTypes (x : Model.Index) (n : ModelNode) : List String :=
  (structFields n).map fun f => (TypeExpr.of x f.node).text

theorem structFields_unnamed (n : ModelNode) :
    structFields n.unnamed = (structFields n).map fun f => { f with node := f.node.unnamed } := by
  rw [Model.ModelNode.unnamed_eq]
  simp [structFields, Function.comp_def, Option.toList_map]

section

variable {n m : ModelNode}

theorem fields_alike (h : Alike n m) :
    List.Forall₂ (fun f g : Field => g.key = f.key ∧ g.origin = f.origin) (structFields n)
      (structFields m) := by
  have hmap : (structFields n).map (fun f => { f with node := f.node.unnamed }) =
      (structFields m).map fun f => { f with node := f.node.unnamed } := by
    rw [← structFields_unnamed, ← structFields_unnamed, h.unnamed_eq]
  rw [← List.forall₂_eq_eq_eq, List.forall₂_map_left_iff, List.forall₂_map_right_iff] at hmap
  exact hmap.imp fun f g hfg => ⟨(congrArg Field.key hfg).symm, (congrArg Field.origin hfg).symm⟩

theorem keys_alike (h : Alike n m) :
    (structFields m).map (·.key) = (structFields n).map (·.key) := by
  rw [← List.forall₂_eq_eq_eq, List.forall₂_map_left_iff, List.forall₂_map_right_iff]
  exact (fields_alike h).flip.imp fun f g hfg => hfg.1

theorem isRequired_alike (h : Alike n m) (key : String) : m.isRequired key = n.isRequired key := by
  rw [ModelNode.isRequired, ← ModelNode.required_unnamed m, h.unnamed_eq, ModelNode.required_unnamed]
  rfl

theorem contexts_alike (r s : Renderer) (h : Alike n m) :
    List.Forall₂ SameFields ((structFields n).map fun f => ⟨n, r, f⟩)
      ((structFields m).map fun g => ⟨m, s, g⟩) := by
  rw [List.forall₂_map_left_iff, List.forall₂_map_right_iff]
  refine (fields_alike h).imp ?_
  rintro ⟨key, node, origin⟩ ⟨_, node', _⟩ ⟨rfl, rfl⟩
  constructor
  · simp only [fieldStart, FieldContext.isRequired, isRequired_alike h]
    rfl
  · rfl

theorem structShape_alike (h : Alike n m) :
    structShape m = (structShape n).map fun shape => (shape.1, structFields m) := by
  rw [structShape_eq, structShape_eq, keys_alike h, structName_congr h.id_eq]
  cases structName n ((structFields n).map (·.key)) <;> rfl

theorem isOk_structShape (h : Alike n m) : (structShape m).isOk = (structShape n).isOk := by
  rw [structShape_alike h]
  cases structShape n <;> rfl

/-- Two structs that are alike have one result exactly if the types of their fields are written alike, or
if both fail. -/
theorem plainStruct_eq_iff {r s : Renderer} (hoptions : r.options = s.options) (h : Alike n m) :
    plainStruct r n = plainStruct s m ↔
      ((structShape n).isOk → fieldTypes r.index n = fieldTypes s.index m) := by
  have htypes : ∀ (r : Renderer) (n : ModelNode),
      ((structFields n).map fun f => (⟨n, r, f⟩ : FieldContext)).map fieldType = fieldTypes r.index n := by
    intro r n
    simp [fieldTypes, fieldType, Renderer.typeText, Function.comp_def]
  rw [plainStruct_eq, plainStruct_eq, structShape_eq, keys_alike h, structName_congr h.id_eq]
  cases structName n ((structFields n).map (·.key)) with
  | error e => simp [Except.map, Except.isOk, Except.toBool]
  | ok type =>
    have htext := structDeclaration_eq_iff (c := ⟨n, r, type⟩) (d := ⟨m, s, type⟩) rfl hoptions
      (contexts_alike r s h)
    rw [htypes, htypes] at htext
    simpa [Except.map, Except.isOk, Except.toBool] using htext

theorem enumValues_alike (h : Alike n m) : m.enumValues = n.enumValues := by
  rw [← ModelNode.enumValues_unnamed m, h.unnamed_eq, ModelNode.enumValues_unnamed]

theorem type_alike (h : Alike n m) : m.type = n.type := by
  rw [← ModelNode.type_unnamed m, h.unnamed_eq, ModelNode.type_unnamed]

theorem backingType_alike (h : Alike n m) : backingType m = backingType n := by
  rw [backingType, backingType, enumValues_alike h, ModelNode.singleType?, ModelNode.singleType?, type_alike h]

theorem modelTypeName_alike (h : Alike n m) : modelTypeName m = modelTypeName n := by
  rw [modelTypeName, modelTypeName, h.id_eq]

theorem enumShape_alike (h : Alike n m) : enumShape m = enumShape n := by
  rw [enumShape, enumShape, modelTypeName_alike h, enumValues_alike h]

/-- Two enums that are alike have one result. -/
theorem plainEnum_congr {r s : Renderer} (hoptions : r.options = s.options) (h : Alike n m) :
    plainEnum r n = plainEnum s m := by
  have hvalues := enumValues_alike h
  have htype := type_alike h
  have hid := h.id_eq
  obtain ⟨options, index⟩ := r
  obtain ⟨options', index'⟩ := s
  obtain rfl : options = options' := hoptions
  cases n
  cases m
  obtain ⟨rfl, rfl, rfl⟩ := And.intro hvalues (And.intro htype hid)
  rfl

end

end Render

end SchemaGo
