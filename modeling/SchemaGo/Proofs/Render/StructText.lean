import SchemaGo.Proofs.Generate.Generator
import SchemaGo.Proofs.Render.Alike
import SchemaGo.Proofs.Render.Shape

/-! The text of a struct whose keys hold no newline: the comment, the opening line, one line behind one
unit of indentation for each field, and the closing brace. A field's line stands on one line of the body,
so that indenting the body and reading its lines again changes nothing in it. The type of a declared
field starts with a star exactly if the field is optional, since no type of a node starts with one. -/

namespace SchemaGo

namespace TypeExpr

open Model (Index ModelNode)

theorem head?_text {t : TypeExpr} (h : ∀ name, t.name? = some name → Text.FromDigits name.toList) :
    t.text.toList.head? ≠ some '*' := by
  cases t with
  | array element => simp [text, arrayText]
  | dictionary value => simp [text, dictionaryText]
  | named name =>
    intro hhead
    obtain ⟨cs, hcs⟩ := List.head?_eq_some_iff.1 hhead
    have hstar : '*' ∈ name.toList := by simp [text] at hcs; simp [hcs]
    exact (h name rfl).not_mem (by decide) hstar
  | _ => decide

/-- No type of a node starts with the mark of optional types. -/
theorem head?_text_of (x : Index) (n : ModelNode) : (of x n).text.toList.head? ≠ some '*' := by
  refine head?_text fun name hname => ?_
  obtain ⟨v, -, hdeclared | ⟨target, -, rfl⟩⟩ := name?_of hname
  · obtain ⟨-, id, -, rfl⟩ := declaredName?_eq_some hdeclared
    exact fromDigits_typeName id
  · exact fromDigits_typeName target

end TypeExpr

namespace Render

open Code (Builder Indent)
open Model (Index ModelNode)
open Text (Closed OneLine lineList_newline oneLine_append withoutReturn_closed)

/-! ### Lines of a struct -/

/-- A struct of a type name and the lines of its body. -/
def structText (unit type : String) (lines : List String) : String :=
  "// " ++ type ++ " represents a " ++ type ++ " model.\n" ++ "type " ++ type ++ " struct \x7b\n"
    ++ String.join (lines.map fun line => unit ++ line ++ "\n") ++ "\x7d"

/-- The type of a declared field. -/
def declaredType (x : Index) (required : Bool) (node : ModelNode) : String :=
  if required then (TypeExpr.of x node).text else "*" ++ (TypeExpr.of x node).text

/-- The line of a declared field. -/
def declaredLine (x : Index) (required : Bool) (key : String) (node : ModelNode) : String :=
  fieldName key ++ " " ++ declaredType x required node ++ " `json:\"" ++ key ++ ",omitempty\"`"

/-- The line of a field that collects several keys. -/
def syntheticLine (x : Index) (key : String) (node : ModelNode) : String :=
  fieldName key ++ " map[string]" ++ (TypeExpr.of x node).text

/-- The lines of a struct in the order of its fields. -/
def structLines (x : Index) (n : ModelNode) : List String :=
  n.properties.map (fun (key, node) => declaredLine x (n.isRequired key) key node)
    ++ n.additionalProperties.toList.map (syntheticLine x "additionalProperties")
    ++ n.patternProperties.map (fun (pattern, node) =>
      syntheticLine x (pattern ++ "PatternProperties") node)

/-- The type of a declared field starts with a star exactly if the field is optional. -/
theorem head?_declaredType (x : Index) (required : Bool) (node : ModelNode) :
    (declaredType x required node).toList.head? = some '*' ↔ required = false := by
  cases required with
  | true => simpa [declaredType] using TypeExpr.head?_text_of x node
  | false => simp [declaredType]

theorem map_fieldLine (r : Renderer) (n : ModelNode) :
    ((structFields n).map fun f => fieldLine ⟨n, r, f⟩) = structLines r.index n := by
  have hdeclared : ∀ key node, fieldLine ⟨n, r, key, node, .property⟩ =
      declaredLine r.index (n.isRequired key) key node := fun key node => by
    simp [fieldLine, declaredLine, declaredType, FieldOrigin.isSynthetic, FieldContext.isRequired,
      Renderer.typeText, TypeExpr.optionalText]
  have hsynthetic : ∀ key node origin, FieldOrigin.isSynthetic origin = true →
      fieldLine ⟨n, r, key, node, origin⟩ = syntheticLine r.index key node :=
    fun key node origin horigin => by
      rw [← String.toList_inj]
      simp [fieldLine, syntheticLine, horigin, Renderer.typeText, TypeExpr.dictionaryText]
  simp [structFields, structLines, hdeclared, hsynthetic _ _ .additional rfl,
    hsynthetic _ _ .pattern rfl, Function.comp_def, Model.additionalName, Model.patternName]

/-! ### One line for each field -/

theorem newline_not_mem_fieldLine {c : FieldContext}
    (h : c.field.origin = .property → '\n' ∉ c.field.key.toList) : '\n' ∉ (fieldLine c).toList := by
  rw [toList_fieldLine, List.mem_append, not_or]
  refine ⟨fun hmem => (oneLine_typed c _ hmem).1 rfl, ?_⟩
  unfold fieldEnd
  split
  · simp
  · next horigin =>
    have hkey := h (by cases horigin' : c.field.origin <;> simp_all [FieldOrigin.isSynthetic])
    simpa using hkey

/-- A field without newlines takes one line of the body. -/
theorem bodyLines_of_newline_not_mem {i : Indent} {c : FieldContext}
    (h : '\n' ∉ (fieldLine c).toList) : bodyLines i c = [i.unit.toList ++ (fieldLine c).toList] := by
  have hclosed := closed_fieldLine c
  have hne : (fieldLine c).toList ≠ [] := by
    obtain ⟨a, d, hac, -⟩ := hclosed
    simp [hac]
  rw [bodyLines, lineList_newline h, withoutReturn_closed hclosed, List.map_singleton,
    Indent.toList_applyLine, if_neg hne, withoutReturn_closed (hclosed.append _)]

theorem out_structHead {c : StructContext} (h : OneLine c.typeName.toList) :
    (structHead c).out = "// " ++ c.typeName ++ " represents a " ++ c.typeName ++ " model.\n" ++
      "type " ++ c.typeName ++ " struct \x7b\n" := by
  have hcomment : OneLine (c.typeName ++ " represents a " ++ c.typeName ++ " model.").toList := by
    simp only [String.toList_append, oneLine_append]
    exact ⟨⟨⟨h, by decide⟩, h⟩, by decide⟩
  have hne : c.typeName ++ " represents a " ++ c.typeName ++ " model." ≠ "" := by
    simp [← String.toList_eq_nil_iff]
  rw [structHead, Builder.comment_oneLine _ hcomment hne, ← String.toList_inj]
  simp [Builder.start, Builder.line, Builder.pad]

theorem structDeclaration_eq_structText {c : StructContext} (htype : OneLine c.typeName.toList)
    {cs : List FieldContext} (h : ∀ d ∈ cs, '\n' ∉ (fieldLine d).toList) :
    structDeclaration c (structBody c.renderer (cs.map fieldLine) "") =
      structText c.renderer.options.indent.unit c.typeName (cs.map fieldLine) := by
  have hlines : cs.flatMap (bodyLines c.renderer.options.indent) =
      cs.map fun d => c.renderer.options.indent.unit.toList ++ (fieldLine d).toList := by
    rw [List.map_eq_flatMap]
    exact List.flatMap_congr fun d hd => bodyLines_of_newline_not_mem (h d hd)
  rw [← String.toList_inj, toList_structDeclaration, lineList_structBody, hlines,
    out_structHead htype]
  simp [structText, String.toList_join, List.flatMap_map, Function.comp_def]

theorem plainStruct_eq_structText {r : Renderer} {n : ModelNode} {id : String}
    (hshape : structShape n = .ok (typeName id, structFields n))
    (keys : ∀ f ∈ structFields n, f.origin = .property → '\n' ∉ f.key.toList) :
    plainStruct r n = .ok (structText r.options.indent.unit (typeName id) (structLines r.index n)) := by
  have hlines : ∀ d ∈ (structFields n).map fun f => ⟨n, r, f⟩, '\n' ∉ (fieldLine d).toList := by
    intro d hd
    obtain ⟨f, hf, rfl⟩ := List.mem_map.1 hd
    exact newline_not_mem_fieldLine (keys f hf)
  have htext := structDeclaration_eq_structText (c := ⟨n, r, typeName id⟩) (oneLine_typeName id) hlines
  rw [List.map_map] at htext
  rw [plainStruct, hshape, ← map_fieldLine]
  exact congrArg Except.ok htext

end Render

namespace Generate

open Model (Index ModelNode)
open Model.ModelNode (Alike alike_nested)
open Render (Field declaredType fields_alike head?_declaredType isRequired_alike modelTypeName_eq_ok_iff
  plainStruct_eq_structText structFields structLines structShape structShape_alike structShape_eq_ok_iff
  structText)

theorem exists_property {m : ModelNode} {f : Field} (hf : f ∈ structFields m)
    (horigin : f.origin = .property) : ∃ p ∈ m.properties, p.1 = f.key := by
  simp only [structFields, List.mem_append, List.mem_map] at hf
  rcases hf with (⟨p, hp, rfl⟩ | ⟨n, -, rfl⟩) | ⟨p, -, rfl⟩
  · exact ⟨p, hp, rfl⟩
  · simp at horigin
  · simp at horigin

theorem newline_not_mem_key {n m : ModelNode} (h : Alike n m)
    (keys : ∀ p ∈ n.properties, '\n' ∉ p.1.toList) {f : Field} (hf : f ∈ structFields m)
    (horigin : f.origin = .property) : '\n' ∉ f.key.toList := by
  obtain ⟨d, hdf⟩ := Index.exists_zip_of_mem (fields_alike h).length_eq hf
  obtain ⟨hkey, hsame⟩ := List.forall₂_zip (fields_alike h) hdf
  obtain ⟨p, hp, hpkey⟩ := exists_property (List.of_mem_zip hdf).1 (hsame.symm.trans horigin)
  rw [hkey, ← hpkey]
  exact keys p hp

/-- A struct with a usable name and distinct field names is rendered, with one line for each field, and
the type of a declared field starts with a star exactly if its key is not required. -/
theorem struct_text {g : Generator} (plain : g.presets = []) (x : Index) {m : ModelNode} {id : String}
    (hid : m.id = some id) (usable : typeName id ≠ "")
    (distinct : ((structFields m).map fun f => fieldName f.key).Nodup)
    (keys : ∀ p ∈ m.properties, '\n' ∉ p.1.toList) :
    g.renderStruct m x =
        .ok ⟨structText g.options.indent.unit (typeName id) (structLines x (x.nameNested m)), []⟩ ∧
      ∀ p ∈ (x.nameNested m).properties,
        (declaredType x ((x.nameNested m).isRequired p.1) p.2).toList.head? = some '*' ↔
          m.isRequired p.1 = false := by
  have halike := alike_nested x m
  have hshape : structShape (x.nameNested m) =
      .ok (typeName id, structFields (x.nameNested m)) := by
    rw [structShape_alike halike,
      structShape_eq_ok_iff.2 ⟨modelTypeName_eq_ok_iff.2 ⟨id, hid, rfl, usable⟩, distinct, rfl⟩]
    rfl
  constructor
  · rw [Generator.renderStruct_plain plain, plainStruct_eq_structText hshape fun f hf =>
      newline_not_mem_key halike keys hf]
    rfl
  · intro p _
    rw [head?_declaredType, isRequired_alike halike]

/-- A struct with a field of an inline model, a key with a carriage return, a pattern with a newline, and
a synthetic name among the required keys. -/
def pet : ModelNode where
  id := some "pet"
  type := some (.single .object)
  properties := [
    ("home", { type := some (.single .object), properties := [("c", { type := some (.single .string) })] }),
    ("na\rme", { type := some (.single .string) })]
  required := .ofList ["na\rme", "additionalProperties"]
  additionalProperties := some { type := some (.single .string) }
  patternProperties := [("^\nx", { type := some (.single .number) })]

theorem struct_text_pet :
    pet.id = some "pet" ∧ typeName "pet" ≠ "" ∧
      ((structFields pet).map fun f => fieldName f.key).Nodup ∧
      (∀ p ∈ pet.properties, '\n' ∉ p.1.toList) ∧
      Generator.renderStruct { options := { indent := .spaces 2 } } pet .empty =
        .ok ⟨"// Pet represents a Pet model.\ntype Pet struct \x7b\n" ++
          "  Home *PetHome `json:\"home,omitempty\"`\n" ++
          "  NaMe string `json:\"na\rme,omitempty\"`\n" ++
          "  AdditionalProperties map[string]string\n" ++
          "  XPatternProperties map[string]float64\n\x7d", []⟩ ∧
      ∀ p ∈ (Index.empty.nameNested pet).properties,
        (declaredType .empty ((Index.empty.nameNested pet).isRequired p.1) p.2).toList.head? = some '*' ↔
          pet.isRequired p.1 = false := by
  have distinct : ((structFields pet).map fun f => fieldName f.key).Nodup := by decide
  have usable : typeName "pet" ≠ "" := by decide
  have keys : ∀ p ∈ pet.properties, '\n' ∉ p.1.toList := by decide
  obtain ⟨htext, hstar⟩ :=
    struct_text (g := { options := { indent := .spaces 2 } }) rfl .empty rfl usable distinct keys
  exact ⟨rfl, usable, distinct, keys, htext.trans (by decide +kernel), hstar⟩

end Generate

end SchemaGo
