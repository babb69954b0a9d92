import SchemaGo.Proofs.Code.Builder
import SchemaGo.Proofs.Type.Name
import SchemaGo.Render.Struct

/-! The text of a struct and the types in it. The line of a field is its type between characters that go
by the key, the origin and the requirement of the field alone. Keys may hold newlines, so that a field
takes several lines, but its type stands on the first of them, and a text of one struct says the type
of each field. -/

namespace SchemaGo.Render

open Code (Builder Indent)
open Text (Closed OneLine closed_intercalate lineList lineList_intercalate lineList_oneLine_append
  newline_not_mem_lineList oneLine_append withoutReturn withoutReturn_append)

/-! ### Lines of fields -/

/-- The type of a field as it is written. -/
def fieldType (c : FieldContext) : String :=
  c.renderer.typeText c.field.node

/-- What stands in front of the type of a field. -/
def fieldStart (c : FieldContext) : String :=
  fieldName c.field.key ++ " " ++
    (if c.field.origin.isSynthetic then "map[string]" else if c.isRequired then "" else "*")

/-- What stands behind the type of a field. -/
def fieldEnd (c : FieldContext) : String :=
  if c.field.origin.isSynthetic then "" else " `json:\"" ++ c.field.key ++ ",omitempty\"`"

theorem fieldLine_eq (c : FieldContext) :
    fieldLine c = fieldStart c ++ fieldType c ++ fieldEnd c := by
  rw [← String.toList_inj]
  unfold fieldLine fieldStart fieldType fieldEnd
  split
  · simp [TypeExpr.dictionaryText]
  · split <;> simp [TypeExpr.optionalText]

theorem oneLine_fieldStart (c : FieldContext) : OneLine (fieldStart c).toList := by
  simp only [fieldStart, String.toList_append, oneLine_append]
  refine ⟨⟨oneLine_fieldName _, by decide⟩, ?_⟩
  split
  · decide
  · split <;> decide

/-- The characters of a field up to the end of its type. -/
def typed (c : FieldContext) : List Char :=
  (fieldStart c).toList ++ (fieldType c).toList

theorem oneLine_typed (c : FieldContext) : OneLine (typed c) :=
  oneLine_append.2 ⟨oneLine_fieldStart c, TypeExpr.oneLine_text_of _ _⟩

theorem typed_ne_nil (c : FieldContext) : typed c ≠ [] := by
  simp [typed, fieldStart]

theorem toList_fieldLine (c : FieldContext) :
    (fieldLine c).toList = typed c ++ (fieldEnd c).toList := by
  simp [fieldLine_eq, typed]

theorem closed_fieldLine (c : FieldContext) : Closed (fieldLine c).toList := by
  rw [toList_fieldLine]
  unfold fieldEnd
  split
  · simpa using (oneLine_typed c).closed (typed_ne_nil c)
  · have hend : Closed ",omitempty\"`".toList := OneLine.closed (by decide) (by decide)
    rw [String.toList_append, ← List.append_assoc]
    exact hend.append _

/-- The lines of a field in the body of its struct. -/
def bodyLines (i : Indent) (c : FieldContext) : List (List Char) :=
  (lineList ((fieldLine c).toList ++ ['\n'])).map fun l =>
    withoutReturn (i.applyLine (String.ofList l)).toList

/-- The first line of a field ends its type with what follows on that line, and the other lines do not
go by the type. -/
theorem bodyLines_eq (i : Indent) (c : FieldContext) :
    bodyLines i c =
      (i.unit.toList ++ typed c ++
          withoutReturn ((lineList ((fieldEnd c).toList ++ ['\n'])).headD [])) ::
        ((lineList ((fieldEnd c).toList ++ ['\n'])).tail.map fun l =>
          withoutReturn (i.applyLine (String.ofList l)).toList) := by
  have honeLine : OneLine (i.unit.toList ++ typed c) :=
    oneLine_append.2 ⟨i.oneLine_unit, oneLine_typed c⟩
  rw [bodyLines, toList_fieldLine, List.append_assoc,
    lineList_oneLine_append (oneLine_typed c) (typed_ne_nil c), List.map_cons, Indent.toList_applyLine,
    if_neg (by simp [typed_ne_nil c]), ← List.append_assoc,
    withoutReturn_append fun h => (honeLine _ h).2 rfl]

/-! ### Whole structs -/

/-- No field is empty, so only the additional content is left out if there is none. -/
theorem filter_fieldLines (cs : List FieldContext) :
    (cs.map fieldLine ++ [""]).filter (!·.isEmpty) = cs.map fieldLine := by
  rw [List.filter_append, List.filter_eq_self.2]
  · simp
  · intro l hl
    obtain ⟨c, -, rfl⟩ := List.mem_map.1 hl
    obtain ⟨a, d, hclosed, -⟩ := closed_fieldLine c
    simp [← String.toList_eq_nil_iff, hclosed]

/-- The lines of a body are those of its fields. -/
theorem lineList_structBody (r : Renderer) (cs : List FieldContext) :
    lineList (structBody r (cs.map fieldLine) "").toList = cs.flatMap (bodyLines r.options.indent) := by
  rw [structBody, filter_fieldLines]
  rcases List.eq_nil_or_concat cs with rfl | ⟨init, last, rfl⟩
  · rfl
  · have hlast : (((init.concat last).map fieldLine).map String.toList).getLast? =
        some (fieldLine last).toList := by simp
    have hlines := lineList_intercalate fun l hl => by
      rw [hlast, Option.some.injEq] at hl
      exact hl ▸ closed_fieldLine last
    have hjoined := closed_intercalate hlast (closed_fieldLine last)
    have hbody : ("\n".intercalate ((init.concat last).map fieldLine)).toList =
        ['\n'].intercalate (((init.concat last).map fieldLine).map String.toList) :=
      String.toList_intercalate
    rw [Indent.lineList_apply _ (hbody ▸ hjoined), hbody, hlines, List.map_flatMap, List.flatMap_map,
      List.flatMap_map]
    rfl

/-- The comment and the opening line of a struct. -/
def structHead (c : StructContext) : Builder :=
  (Builder.start c.renderer.options.indent)
    |>.comment (c.typeName ++ " represents a " ++ c.typeName ++ " model.")
    |>.line ("type " ++ c.typeName ++ " struct \x7b")

theorem toList_structDeclaration (c : StructContext) (body : String) :
    (structDeclaration c body).toList =
      (structHead c).out.toList ++ (lineList body.toList).flatMap (· ++ ['\n']) ++ ['\x7d'] := by
  have hdepth : (structHead c).depth = 0 := by
    simp [structHead, Builder.start]
  have hline := Builder.trimmed_line (b := (structHead c).text body) (l := "\x7d") (by simpa using hdepth)
    (OneLine.closed (by decide) (by decide))
  change (((structHead c).text body).line "\x7d").trimmed.toList = _
  rw [hline, String.toList_append, Builder.toList_text hdepth]
  rfl

/-- The fields of one struct, rendered twice with types that may differ. -/
def SameFields (c d : FieldContext) : Prop :=
  fieldStart c = fieldStart d ∧ fieldEnd c = fieldEnd d

/-- The lines of the fields determine their types. -/
theorem bodyLines_injective {i : Indent} {cs ds : List FieldContext}
    (hfields : List.Forall₂ SameFields cs ds)
    (h : cs.flatMap (bodyLines i) = ds.flatMap (bodyLines i)) :
    cs.map fieldType = ds.map fieldType := by
  induction hfields with
  | nil => rfl
  | @cons c d cs ds hcd _ ih =>
    obtain ⟨hstart, hend⟩ := hcd
    simp only [List.flatMap_cons, bodyLines_eq, List.cons_append, List.cons.injEq, hend] at h
    obtain ⟨hfirst, hrest⟩ := h
    have htyped : typed c = typed d := by
      rw [List.append_assoc, List.append_assoc] at hfirst
      exact List.append_cancel_right (List.append_cancel_left hfirst)
    have htype : fieldType c = fieldType d := by
      unfold typed at htyped
      rw [hstart] at htyped
      exact String.toList_inj.1 (List.append_cancel_left htyped)
    rw [List.map_cons, List.map_cons, htype, ih (List.append_cancel_left hrest)]

theorem newline_not_mem_bodyLines (i : Indent) (c : FieldContext) : ∀ l ∈ bodyLines i c, '\n' ∉ l := by
  intro l hl
  obtain ⟨a, ha, rfl⟩ := List.mem_map.1 hl
  intro hmem
  have happlied := Text.mem_of_mem_withoutReturn hmem
  exact i.newline_not_mem_applyLine (newline_not_mem_lineList _ a ha) happlied

/-- Two texts of one struct are equal exactly if the types of its fields are written alike in both. -/
theorem structDeclaration_eq_iff {c d : StructContext} (htype : c.typeName = d.typeName)
    (hoptions : c.renderer.options = d.renderer.options) {cs ds : List FieldContext}
    (hfields : List.Forall₂ SameFields cs ds) :
    structDeclaration c (structBody c.renderer (cs.map fieldLine) "") =
        structDeclaration d (structBody d.renderer (ds.map fieldLine) "") ↔
      cs.map fieldType = ds.map fieldType := by
  constructor
  · intro h
    have hhead : structHead c = structHead d := by rw [structHead, htype, hoptions, structHead]
    have hlists := congrArg String.toList h
    rw [toList_structDeclaration, toList_structDeclaration, lineList_structBody, lineList_structBody,
      hhead, hoptions] at hlists
    refine bodyLines_injective hfields (Text.ended_injective ?_ ?_
      (List.append_cancel_left (List.append_cancel_right hlists)))
    all_goals
      intro l hl
      obtain ⟨e, -, hl⟩ := List.mem_flatMap.1 hl
      exact newline_not_mem_bodyLines _ e l hl
  · intro h
    have hlines : cs.map fieldLine = ds.map fieldLine := by
      induction hfields with
      | nil => rfl
      | @cons c d cs ds hcd _ ih =>
        obtain ⟨hhead, htail⟩ := List.cons.inj h
        rw [List.map_cons, List.map_cons, fieldLine_eq c, fieldLine_eq d, hcd.1, hcd.2, hhead, ih htail]
    rw [structDeclaration, structDeclaration, structBody, structBody, hlines, htype, hoptions]

end SchemaGo.Render
