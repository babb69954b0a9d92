import SchemaGo.Proofs.Render.EnumText
import SchemaGo.Proofs.Render.Literal

/-! The backing types of enums and their values. The type goes by the tag of the model, and of the values
only by whether one is null. Values that have the type of the tag fit the backing type, so their literals
are such that constants of it can have them; other values do not. -/

namespace SchemaGo

/-- The type of a value at run time. -/
def Json.Value.runtimeType : Json.Value → String
  | .null => "null"
  | .bool _ => "boolean"
  | .number _ => "number"
  | .string _ => "string"
  | .array _ => "array"
  | .object _ => "object"

namespace Render

open Json (Value)
open Model (ModelNode TypeTag)
open TypeExpr (ofScalar?)

/-- The values of an enum. -/
def enumItems (m : ModelNode) : List Value :=
  m.enumValues.getD []

/-- If the model has one tag, of a scalar, and no null, its values have the type of the tag. -/
def ValuesAgree (m : ModelNode) : Prop :=
  ∀ t, m.singleType?.bind ofScalar? = some t → (∀ v ∈ enumItems m, v.isNull = false) →
    ∀ v ∈ enumItems m, Fits t v

/-- What the backing type of an enum says about its values. -/
structure ValuesFit (m : ModelNode) : Prop where
  string : backingType m = .string → ∀ v ∈ enumItems m, ∃ s, v = .string s
  bool : backingType m = .bool → ∀ v ∈ enumItems m, ∃ b, v = .bool b
  int : backingType m = .int → ∀ v ∈ enumItems m, ∃ n, v = .number (.integer n)
  float : backingType m = .float → ∀ v ∈ enumItems m, ∃ x, v = .number x
  differing : (∃ v ∈ enumItems m, ∃ w ∈ enumItems m, v.runtimeType ≠ w.runtimeType) →
    backingType m = .any
  literals : ∀ v ∈ enumItems m, CanHold (backingType m) (literal v).toList

/-! ### Backing types -/

/-- Either a value is null, or the type goes by the tag. -/
theorem backingType_cases (m : ModelNode) :
    ((∃ v ∈ enumItems m, v.isNull) ∧ backingType m = .any) ∨
      (∀ v ∈ enumItems m, v.isNull = false) ∧
        backingType m = (m.singleType?.bind ofScalar?).getD .any := by
  rw [backingType, ← enumItems]
  cases hnull : (enumItems m).any Value.isNull with
  | true => exact .inl ⟨by simpa using hnull, if_pos rfl⟩
  | false => exact .inr ⟨by simpa using hnull, if_neg (by decide)⟩

theorem ofScalar?_ne_any (tag : TypeTag) : ofScalar? tag ≠ some .any := by
  cases tag <;> decide

theorem ofScalar?_injective {tag tag' : TypeTag} {t : TypeExpr} (h : ofScalar? tag = some t)
    (h' : ofScalar? tag' = some t) : tag = tag' := by
  cases tag <;> cases h <;> cases tag' <;> cases h' <;> rfl

/-- An enum is declared over the type of its tag if it has one, of a scalar, and no null. -/
theorem backingType_eq_iff {m : ModelNode} {tag : TypeTag} {t : TypeExpr} (h : ofScalar? tag = some t) :
    backingType m = t ↔ m.singleType? = some tag ∧ ∀ v ∈ enumItems m, v.isNull = false := by
  have hany : t ≠ .any := fun ht => ofScalar?_ne_any tag (ht ▸ h)
  obtain ⟨⟨v, hv, hnull⟩, hbacking⟩ | ⟨hall, hbacking⟩ := backingType_cases m
  · rw [hbacking]
    simp only [Ne.symm hany, false_iff, not_and]
    intro _ hall
    simp [hall v hv] at hnull
  · rw [hbacking]
    cases htype : m.singleType? with
    | none => simp [Ne.symm hany]
    | some tag' =>
      simp only [Option.bind_some, Option.some.injEq]
      refine ⟨fun heq => ⟨?_, hall⟩, ?_⟩
      · cases hscalar : ofScalar? tag' with
        | none => simp [hscalar, Ne.symm hany] at heq
        | some t' =>
          obtain rfl : t' = t := by simpa [hscalar] using heq
          exact ofScalar?_injective hscalar h
      · rintro ⟨rfl, -⟩
        rw [h, Option.getD_some]

theorem backingType_eq_any_iff (m : ModelNode) :
    backingType m = .any ↔
      (∃ v ∈ enumItems m, v.isNull) ∨ m.singleType?.bind ofScalar? = none := by
  obtain ⟨hnull, hbacking⟩ | ⟨hall, hbacking⟩ := backingType_cases m
  · simp only [hbacking, hnull, true_or]
  · have hnull : ¬ ∃ v ∈ enumItems m, v.isNull := by simpa using hall
    rw [hbacking]
    simp only [hnull, false_or]
    cases hscalar : m.singleType?.bind ofScalar? with
    | none => simp
    | some t =>
      obtain ⟨tag, -, htag⟩ := Option.bind_eq_some_iff.1 hscalar
      have hany : t ≠ .any := fun ht => ofScalar?_ne_any tag (ht ▸ htag)
      simp [hany]

/-! ### Values -/

/-- The values have the backing type exactly if they have the type of the tag. -/
theorem fits_backingType_iff (m : ModelNode) :
    (∀ v ∈ enumItems m, Fits (backingType m) v) ↔ ValuesAgree m := by
  obtain ⟨⟨v, hv, hnull⟩, hbacking⟩ | ⟨hall, hbacking⟩ := backingType_cases m
  · rw [hbacking]
    refine ⟨fun _ t _ hall => ?_, fun _ w _ => trivial⟩
    simp [hall v hv] at hnull
  · rw [hbacking]
    unfold ValuesAgree
    cases m.singleType?.bind ofScalar? with
    | none => simp [Fits]
    | some t => exact ⟨by rintro h _ ⟨⟩ -; exact h, fun h => h t rfl hall⟩

/-- Values of one type, unless it is that of any value, are of one type at run time. -/
theorem runtimeType_eq_of_fits {t : TypeExpr} (ht : t ≠ .any) {v w : Value} (hv : Fits t v)
    (hw : Fits t w) : v.runtimeType = w.runtimeType := by
  cases t with
  | any => exact absurd rfl ht
  | array => cases hv
  | dictionary => cases hv
  | named => cases hv
  | _ =>
    obtain ⟨_, rfl⟩ := hv
    obtain ⟨_, rfl⟩ := hw
    rfl

theorem ValuesAgree.valuesFit {m : ModelNode} (h : ValuesAgree m) : ValuesFit m := by
  have hfits := (fits_backingType_iff m).2 h
  have hof : ∀ t, backingType m = t → ∀ v ∈ enumItems m, Fits t v := by
    rintro _ rfl
    exact hfits
  refine ⟨hof .string, hof .bool, hof .int, hof .float, ?_, fun v hv => canHold_literal (hfits v hv)⟩
  rintro ⟨v, hv, w, hw, hdiffer⟩
  by_contra hany
  exact hdiffer (runtimeType_eq_of_fits hany (hfits v hv) (hfits w hw))

/-! ### Rendered enums -/

/-- A rendered enum is the text over its backing type, under the name of the model. -/
theorem exists_enumText {r : Renderer} {n : ModelNode} {text : String} (h : plainEnum r n = .ok text) :
    ∃ id, n.id = some id ∧
      text = enumText r.options.indent.unit (typeName id) (backingType n).text
        (enumLines r.options.constantTyping (typeName id) (enumItems n)) := by
  cases hshape : enumShape n with
  | error e => simp [plainEnum, hshape, Except.map] at h
  | ok shape =>
    obtain ⟨type, constants⟩ := shape
    obtain ⟨hname, hdistinct, -⟩ := enumShape_eq_ok_iff.1 hshape
    obtain ⟨id, hid, rfl, -⟩ := modelTypeName_eq_ok_iff.1 hname
    rw [plainEnum_eq_enumText hname hdistinct] at h
    exact ⟨id, hid, (Except.ok.inj h).symm⟩

end Render

namespace Generate

open Json (Value)
open Model (Index ModelNode)
open Model.ModelNode (alike_nested)
open Render (ValuesAgree ValuesFit backingType backingType_eq_any_iff backingType_eq_iff enumItems
  enumLines enumText exists_enumText fits_backingType_iff plainEnum_congr)

/-- A rendered enum is declared over the type of its tag if it has one, of a scalar, and no null, and over
the type of any value otherwise. If the values agree with that tag, and only then, they have the backing
type, and so have the literals of the constants. -/
theorem backing_of_tag {g : Generator} (plain : g.presets = []) {x : Index} {m : ModelNode} {o : Output}
    (h : g.renderEnum m x = .ok o) :
    (∃ id, m.id = some id ∧
        o.text = enumText g.options.indent.unit (typeName id) (backingType m).text
          (enumLines g.options.constantTyping (typeName id) (enumItems m))) ∧
      (∀ tag t, TypeExpr.ofScalar? tag = some t →
        (backingType m = t ↔ m.singleType? = some tag ∧ ∀ v ∈ enumItems m, v.isNull = false)) ∧
      (backingType m = .any ↔
        (∃ v ∈ enumItems m, v.isNull) ∨ m.singleType?.bind TypeExpr.ofScalar? = none) ∧
      ((∀ v ∈ enumItems m, Render.Fits (backingType m) v) ↔ ValuesAgree m) ∧
      (ValuesAgree m → ValuesFit m) := by
  have htext := Generator.plainEnum_of_ok plain h
  rw [← plainEnum_congr (r := g.renderer x) (s := g.renderer x) rfl (alike_nested x m)] at htext
  obtain ⟨id, hid, htext⟩ := exists_enumText htext
  exact ⟨⟨id, hid, htext⟩, fun _ _ => backingType_eq_iff, backingType_eq_any_iff m,
    fits_backingType_iff m, ValuesAgree.valuesFit⟩

/-- An enum of integers. -/
def levels : ModelNode where
  id := some "t"
  type := some (.single .integer)
  enumValues := some [.number (.integer 1), .number (.integer 2)]

theorem backing_of_tag_levels :
    ∃ o, Generator.renderEnum {} levels .empty = .ok o ∧ backingType levels = .int ∧
      ValuesFit levels := by
  have hagree : ValuesAgree levels := by
    rintro t ⟨⟩ - v hv
    obtain ⟨k, rfl⟩ : ∃ k, v = .number (.integer k) := by
      rcases List.mem_pair.1 hv with rfl | rfl
      · exact ⟨1, rfl⟩
      · exact ⟨2, rfl⟩
    exact ⟨k, rfl⟩
  obtain ⟨o, hrender⟩ := exists_of_isOk (e := Generator.renderEnum {} levels .empty) (by decide +kernel)
  obtain ⟨-, htag, -, -, hfit⟩ := backing_of_tag rfl hrender
  exact ⟨o, hrender, (htag .integer .int rfl).2 ⟨rfl, by simp [enumItems, levels, Json.Value.isNull]⟩,
    hfit hagree⟩

/-- An enum of a string and an integer whose tag is that of strings. -/
def tagged : ModelNode where
  id := some "t"
  type := some (.single .string)
  enumValues := some [.string "a", .number (.integer 1)]

/-- The enum is declared over strings, and its second constant is an integer. -/
theorem backing_against_values :
    Generator.renderEnum {} tagged .empty = .ok
        ⟨"// T represents an enum of string.\ntype T string\n\nconst (\n\tTA T = \"a\"\n\tT1 = 1\n)", []⟩ ∧
      backingType tagged = .string ∧
      (∃ v ∈ enumItems tagged,
        (∀ s, v ≠ .string s) ∧ ¬ Render.CanHold .string (Render.literal v).toList) ∧
      ∃ v ∈ enumItems tagged, ∃ w ∈ enumItems tagged, v.runtimeType ≠ w.runtimeType := by
  have hone : Value.number (.integer 1) ∈ enumItems tagged := by simp [enumItems, tagged]
  refine ⟨by decide +kernel, by decide, ⟨_, hone, by simp, ?_⟩, .string "a", by simp [enumItems, tagged], _,
    hone, by decide⟩
  rintro ⟨cs, v, hquote, -⟩
  have hliteral : (Render.literal (.number (.integer 1))).toList = ['1'] := by decide
  rw [hliteral] at hquote
  cases hquote

end Generate

end SchemaGo
