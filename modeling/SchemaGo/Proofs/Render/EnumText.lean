import SchemaGo.Proofs.Code.Builder
import SchemaGo.Proofs.Generate.Generator
import SchemaGo.Proofs.Json.Printer
import SchemaGo.Proofs.Naming.Exported
import SchemaGo.Proofs.Render.Alike
import SchemaGo.Proofs.Render.Shape

/-! The text of an enum: the comment, the type line, and behind a blank line the block of its constants,
one line behind one unit of indentation for each value. A literal holds no line end whatever the value,
so every constant stays on its line. An enum without values has no block. -/

namespace SchemaGo

namespace Render

open Code (Builder)
open Json (Value)
open Model (ModelNode)
open Text (Closed OneLine oneLine_append)

/-! ### Lines of an enum -/

/-- An enum of a type name, the text of its backing type and the lines of its constants. -/
def enumText (unit type backing : String) (lines : List String) : String :=
  let mixed := backing = "interface\x7b\x7d"
  "// " ++ type ++ " represents an enum of " ++ (if mixed then "mixed types" else backing) ++ ".\n"
    ++ "type " ++ type ++ " " ++ backing
    ++ if lines.isEmpty then "" else
      "\n\n" ++ (if mixed then "var" else "const") ++ " (\n"
        ++ String.join (lines.map fun line => unit ++ line ++ "\n") ++ ")"

/-- The line of the constant of the value at position `k`. -/
def enumLine (typing : ConstantTyping) (type : String) (value : Value) (k : Nat) : String :=
  constantName type value
    ++ (if k = 0 ∨ value.isNull ∨ typing = .every then " " ++ type else "") ++ " = " ++ literal value

/-- The lines of an enum in the order of its values. -/
def enumLines (typing : ConstantTyping) (type : String) (values : List Value) : List String :=
  values.zipIdx.map fun (value, k) => enumLine typing type value k

theorem constantLine_eq (n : ModelNode) (r : Renderer) (type : String) (backing : TypeExpr) (v : Value)
    (k : Nat) :
    constantLine ⟨n, r, type, backing, constantName type v, v, k⟩ =
      enumLine r.options.constantTyping type v k := by
  have hstates : statesType ⟨n, r, type, backing, constantName type v, v, k⟩ = true ↔
      k = 0 ∨ v.isNull ∨ r.options.constantTyping = .every := by
    simp [statesType, or_assoc]
  simp only [constantLine, enumLine, hstates]

theorem oneLine_constantName {type : String} (h : OneLine type.toList) (v : Value) :
    OneLine (constantName type v).toList := by
  have hsuffix : OneLine (constantSuffix v).toList := by
    unfold constantSuffix
    split
    · simp only [String.toList_append, oneLine_append]
      exact ⟨by decide, (Text.fromDigits_pascalCase _).oneLine⟩
    · dsimp only
      split
      · decide
      · exact (Text.fromDigits_pascalCase _).oneLine
  simpa [constantName] using oneLine_append.2 ⟨h, hsuffix⟩

theorem oneLine_enumLine (typing : ConstantTyping) {type : String} (h : OneLine type.toList) (v : Value)
    (k : Nat) : OneLine (enumLine typing type v k).toList ∧ enumLine typing type v k ≠ "" := by
  constructor
  · simp only [enumLine, String.toList_append, oneLine_append]
    refine ⟨⟨⟨oneLine_constantName h v, ?_⟩, by decide⟩, oneLine_literal v⟩
    split
    · simpa using oneLine_append.2 ⟨(by decide : OneLine [' ']), h⟩
    · decide
  · simp [enumLine, ← String.toList_eq_nil_iff]

/-! ### The declaration -/

/-- The type of an enum is that of a scalar or that of any value, and only the latter is written so. -/
theorem text_backingType (n : ModelNode) :
    OneLine (backingType n).text.toList ∧ (backingType n).text ≠ "" ∧
      ((backingType n).text = "interface\x7b\x7d" ↔ backingType n = .any) := by
  unfold backingType
  split
  · decide
  · cases n.singleType? with
    | none => decide
    | some tag => cases tag <;> decide

/-- The two lines of a declaration. -/
def enumHead (type : String) (backing : TypeExpr) : List String :=
  ["// " ++ type ++ " represents an enum of " ++ describe backing ++ ".",
    "type " ++ type ++ " " ++ backing.text]

theorem oneLine_enumHead {type : String} (h : OneLine type.toList) (n : ModelNode) :
    ∀ l ∈ enumHead type (backingType n), OneLine l.toList ∧ l ≠ "" := by
  obtain ⟨hbacking, -⟩ := text_backingType n
  have hdescribe : OneLine (describe (backingType n)).toList := by
    unfold describe
    split
    · decide
    · exact hbacking
  simp only [enumHead, List.forall_mem_cons, String.toList_append, oneLine_append]
  refine ⟨⟨⟨⟨⟨⟨by decide, h⟩, by decide⟩, hdescribe⟩, by decide⟩, ?_⟩,
    ⟨⟨⟨⟨by decide, h⟩, by decide⟩, hbacking⟩, ?_⟩, by simp⟩
  all_goals simp [← String.toList_eq_nil_iff]

theorem enumDeclaration_eq (r : Renderer) {type : String} (h : OneLine type.toList) (n : ModelNode) :
    enumDeclaration r type (backingType n) = "\n".intercalate (enumHead type (backingType n)) := by
  have hhead := oneLine_enumHead h n
  simp only [enumHead, List.forall_mem_cons] at hhead
  obtain ⟨⟨hcomment, -⟩, ⟨htype, -⟩, -⟩ := hhead
  have hdescribed :
      OneLine (type ++ " represents an enum of " ++ describe (backingType n) ++ ".").toList := by
    simp only [String.toList_append, oneLine_append] at hcomment ⊢
    exact ⟨⟨⟨hcomment.1.1.1.2, hcomment.1.1.2⟩, hcomment.1.2⟩, hcomment.2⟩
  rw [enumDeclaration, Builder.comment_oneLine _ hdescribed (by simp [← String.toList_eq_nil_iff]),
    Builder.trimmed_line rfl (htype.closed (by simp)), ← String.toList_inj]
  simp [Builder.start, Builder.line, Builder.pad, enumHead]

/-! ### The block -/

theorem filter_lines {lines : List String} (h : ∀ l ∈ lines, OneLine l.toList ∧ l ≠ "") :
    lines.filter (!·.isEmpty) = lines :=
  List.filter_eq_self.2 fun l hl => by simpa using (h l hl).2

/-- The block of an enum whose constants take one line each. -/
theorem enumBlock_eq {c : EnumContext} (htype : OneLine c.typeName.toList)
    (hbacking : c.backingType = backingType c.model)
    (h : ∀ l ∈ c.items, OneLine l.toList ∧ l ≠ "") :
    enumBlock c (enumDeclaration c.renderer c.typeName c.backingType) =
      enumText c.renderer.options.indent.unit c.typeName c.backingType.text c.items := by
  obtain ⟨-, -, hany⟩ := text_backingType c.model
  have hdeclaration := enumDeclaration_eq c.renderer htype c.model
  have hhead := oneLine_enumHead htype c.model
  rw [← hbacking] at hany hdeclaration hhead
  rw [hdeclaration, enumBlock, filter_lines h]
  cases hitems : c.items with
  | nil =>
    rw [← String.toList_inj]
    simp [enumHead, enumText, describe, hany]
  | cons line lines =>
    have hclosing : Closed ")".toList := OneLine.closed (by decide) (by decide)
    rw [hitems] at h
    dsimp only
    rw [Builder.text_joined _ hhead, Builder.trimmed_block rfl _ hclosing h, ← String.toList_inj]
    simp [Builder.start, Builder.blank, Builder.pad, enumHead, enumText, describe, hany]

theorem plainEnum_eq_enumText {r : Renderer} {n : ModelNode} {id : String}
    (hname : modelTypeName n = .ok (typeName id))
    (distinct : ((n.enumValues.getD []).map (constantName (typeName id))).Nodup) :
    plainEnum r n = .ok (enumText r.options.indent.unit (typeName id) (backingType n).text
      (enumLines r.options.constantTyping (typeName id) (n.enumValues.getD []))) := by
  have hlines : (((n.enumValues.getD []).map fun v => (constantName (typeName id) v, v)).zipIdx.map
      fun p => constantLine ⟨n, r, typeName id, backingType n, p.1.1, p.1.2, p.2⟩) =
      enumLines r.options.constantTyping (typeName id) (n.enumValues.getD []) := by
    rw [List.zipIdx_map, List.map_map]
    exact List.map_congr_left fun p _ => constantLine_eq n r (typeName id) (backingType n) p.1 p.2
  have honeLine : ∀ l ∈ enumLines r.options.constantTyping (typeName id) (n.enumValues.getD []),
      OneLine l.toList ∧ l ≠ "" := by
    intro l hl
    obtain ⟨p, -, rfl⟩ := List.mem_map.1 hl
    exact oneLine_enumLine _ (oneLine_typeName id) p.1 p.2
  rw [← hlines] at honeLine ⊢
  rw [plainEnum, enumShape_eq_ok_iff.2 ⟨hname, distinct, rfl⟩]
  exact congrArg Except.ok
    (enumBlock_eq (c := ⟨n, r, typeName id, backingType n, _⟩) (oneLine_typeName id) rfl honeLine)

end Render

namespace Generate

open Model (Index ModelNode)
open Model.ModelNode (alike_nested)
open Render (backingType constantName enumLines enumText modelTypeName_eq_ok_iff plainEnum_congr
  plainEnum_eq_enumText)

/-- An enum with a usable name and distinct constant names is rendered, with one line for each value
whatever the values are. -/
theorem enum_text {g : Generator} (plain : g.presets = []) (x : Index) {m : ModelNode} {id : String}
    (hid : m.id = some id) (usable : typeName id ≠ "")
    (distinct : ((m.enumValues.getD []).map (constantName (typeName id))).Nodup) :
    g.renderEnum m x =
      .ok ⟨enumText g.options.indent.unit (typeName id) (backingType m).text
        (enumLines g.options.constantTyping (typeName id) (m.enumValues.getD [])), []⟩ := by
  have hname := modelTypeName_eq_ok_iff.2 ⟨id, hid, rfl, usable⟩
  have htext := plainEnum_eq_enumText (r := g.renderer x) hname distinct
  rw [Generator.renderEnum_plain plain,
    ← plainEnum_congr (r := g.renderer x) (s := g.renderer x) rfl (alike_nested x m), htext]
  rfl

/-- An enum of a string with a newline and quotes, a null, and a string with a newline within an array and
an object. -/
def mark : ModelNode where
  id := some "mark"
  enumValues := some [.string "a\n\"b\"", .null, .number (.integer (-1)),
    .array [.object [("\r", .string "\n")]]]

theorem enum_text_mark :
    mark.id = some "mark" ∧ typeName "mark" ≠ "" ∧
      ((mark.enumValues.getD []).map (constantName (typeName "mark"))).Nodup ∧
      Generator.renderEnum { options := { indent := .spaces 2 } } mark .empty =
        .ok ⟨"// Mark represents an enum of mixed types.\ntype Mark interface\x7b\x7d\n\nvar (\n" ++
          "  MarkAB Mark = \"a\\n\\\"b\\\"\"\n" ++
          "  MarkNull Mark = nil\n" ++
          "  MarkMinus1 = -1\n" ++
          "  MarkRN = \"[\x7b\\\"\\\\r\\\":\\\"\\\\n\\\"\x7d]\"\n)", []⟩ := by
  have distinct : ((mark.enumValues.getD []).map (constantName (typeName "mark"))).Nodup := by
    decide +kernel
  have usable : typeName "mark" ≠ "" := by decide
  have htext := enum_text (g := { options := { indent := .spaces 2 } }) rfl .empty rfl usable distinct
  exact ⟨rfl, usable, distinct, htext.trans (by decide +kernel)⟩

end Generate

end SchemaGo
