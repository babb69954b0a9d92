import Mathlib.Data.List.Nodup
import SchemaGo.Proofs.Generate.Generator
import SchemaGo.Proofs.Json.Numeral
import SchemaGo.Proofs.Render.Alike
import SchemaGo.Proofs.Render.Shape
import SchemaGo.Proofs.Text.Words

/-! Names of constants for integers, truth values and null. Digits and the words for signs, truth values and
null start differently, so such a value can be read off what its constant's name adds to the type name.
Different values of this kind therefore have different constants, and an enum of them is not refused for
its names. Fractions lose their point and have no such names. -/

namespace SchemaGo

namespace Render

open Json (Value)
open Number (digits_toDigits minus_not_mem_toDigits text_negSucc text_ofNat)
open Text (isName_of_digits pascalCase)

/-- An integer, a truth value or null. -/
inductive Discrete : Value → Prop
  | null : Discrete .null
  | bool (b : Bool) : Discrete (.bool b)
  | integer (n : Int) : Discrete (.number (.integer n))

/-- The integer, truth value or null that a suffix of a constant's name stands for. -/
def ofSuffix : List Char → Value
  | 'N' :: _ => .null
  | 'T' :: _ => .bool true
  | 'F' :: _ => .bool false
  | 'M' :: 'i' :: 'n' :: 'u' :: 's' :: digits => .number (.integer (-Nat.ofDigitChars 10 digits 0))
  | digits => .number (.integer (Nat.ofDigitChars 10 digits 0))

/-! ### Suffixes of integers -/

theorem pascalCase_toDigits (n : Nat) :
    pascalCase (String.ofList (Nat.toDigits 10 n)) = String.ofList (Nat.toDigits 10 n) :=
  Text.IsName.pascalCase_eq (by simpa using isName_of_digits (digits_toDigits n).2)

theorem constantSuffix_ofNat (n : Nat) :
    constantSuffix (.number (.integer (.ofNat n))) = String.ofList (Nat.toDigits 10 n) := by
  have htext : (Value.number (.integer (.ofNat n))).plainText.toList = Nat.toDigits 10 n := text_ofNat n
  unfold constantSuffix
  rw [htext]
  split
  · next heq => exact absurd (heq ▸ List.mem_cons_self) (minus_not_mem_toDigits n)
  · rw [pascalCase_toDigits]
    exact if_neg (by simp)

theorem constantSuffix_negSucc (n : Nat) :
    constantSuffix (.number (.integer (.negSucc n))) =
      "Minus" ++ String.ofList (Nat.toDigits 10 (n + 1)) := by
  have htext : (Value.number (.integer (.negSucc n))).plainText.toList =
      '-' :: Nat.toDigits 10 (n + 1) := text_negSucc n
  unfold constantSuffix
  rw [htext]
  exact congrArg ("Minus" ++ ·) (pascalCase_toDigits (n + 1))

theorem ofSuffix_toDigits (n : Nat) :
    ofSuffix (Nat.toDigits 10 n) = .number (.integer (.ofNat n)) := by
  have hdigit : ∀ c ∈ (Nat.toDigits 10 n).head?, c.isDigit = true :=
    fun c hc => (digits_toDigits n).2 c (List.mem_of_head? hc)
  unfold ofSuffix
  split
  case h_5 => rw [Nat.ofDigitChars_ten_toDigits]; rfl
  all_goals
    next heq =>
      rw [heq] at hdigit
      exact absurd (hdigit _ rfl) (by decide)

/-! ### Values and names -/

/-- An integer, a truth value or null is read off the suffix of its constant's name. -/
theorem ofSuffix_constantSuffix {v : Value} (h : Discrete v) : ofSuffix (constantSuffix v).toList = v := by
  cases h with
  | null =>
    have hsuffix : constantSuffix .null = "Null" := by decide +kernel
    rw [hsuffix]
    rfl
  | bool b =>
    have hsuffix : constantSuffix (.bool b) = if b then "True" else "False" := by
      cases b <;> decide +kernel
    rw [hsuffix]
    cases b <;> rfl
  | integer n =>
    cases n with
    | ofNat n => rw [constantSuffix_ofNat, String.toList_ofList, ofSuffix_toDigits]
    | negSucc n =>
      have hsuffix : ("Minus" ++ String.ofList (Nat.toDigits 10 (n + 1))).toList =
          'M' :: 'i' :: 'n' :: 'u' :: 's' :: Nat.toDigits 10 (n + 1) := by simp
      rw [constantSuffix_negSucc, hsuffix, ofSuffix, Nat.ofDigitChars_ten_toDigits]
      rfl

theorem eq_of_constantName_eq {type : String} {v w : Value} (hv : Discrete v) (hw : Discrete w)
    (h : constantName type v = constantName type w) : v = w := by
  have hsuffix : constantSuffix v = constantSuffix w := (String.append_right_inj type).1 h
  rw [← ofSuffix_constantSuffix hv, hsuffix, ofSuffix_constantSuffix hw]

/-- Constants of such values have different names exactly if the values are different. -/
theorem nodup_constantName_iff (type : String) {values : List Value} (h : ∀ v ∈ values, Discrete v) :
    (values.map (constantName type)).Nodup ↔ values.Nodup :=
  ⟨List.Nodup.of_map _, fun distinct =>
    distinct.map_on fun v hv w hw => eq_of_constantName_eq (h v hv) (h w hw)⟩

-- The names of 1.5 and 15 are one.
example : constantName "Level" (.number (.double ⟨false, 6755399441055744, -52⟩)) =
    constantName "Level" (.number (.integer 15)) := by
  decide +kernel

end Render

namespace Generate

open Json (Value)
open Model (Index ModelNode)
open Model.ModelNode (alike_nested)
open Render (Discrete constantName enumShape_eq_ok_iff modelTypeName nodup_constantName_iff plainEnum
  plainEnum_congr)

/-- An enum of different integers, truth values and null has a constant of its own for each of them, named
after the type, and is rendered. -/
theorem constants_apart {g : Generator} (plain : g.presets = []) (x : Index) {m : ModelNode} {type : String}
    (named : modelTypeName m = .ok type) (discrete : ∀ v ∈ m.enumValues.getD [], Discrete v)
    (distinct : (m.enumValues.getD []).Nodup) :
    ((m.enumValues.getD []).map (constantName type)).Nodup ∧
      (∀ v ∈ m.enumValues.getD [], type.toList <+: (constantName type v).toList) ∧
      ∃ o, g.renderEnum m x = .ok o := by
  have hnames := (nodup_constantName_iff type discrete).2 distinct
  refine ⟨hnames, fun v _ => ?_, ?_⟩
  · rw [constantName, String.toList_append]
    exact List.prefix_append _ _
  · have hshape := enumShape_eq_ok_iff.2 ⟨named, hnames, rfl⟩
    rw [Generator.renderEnum_plain plain,
      ← plainEnum_congr (r := g.renderer x) (s := g.renderer x) rfl (alike_nested x m), plainEnum, hshape]
    exact ⟨_, rfl⟩

/-- An enum of integers of either sign, up to the ends of 64 bits, and of the other values. -/
def spread : ModelNode where
  id := some "spread"
  enumValues := some [.number (.integer 3), .number (.integer (-3)), .number (.integer 0),
    .number (.integer (-9223372036854775808)), .number (.integer 18446744073709551615), .bool true,
    .bool false, .null]

theorem constants_apart_spread :
    modelTypeName spread = .ok "Spread" ∧
      ((spread.enumValues.getD []).map (constantName "Spread")).Nodup ∧
      ∃ o, Generator.renderEnum {} spread .empty = .ok o := by
  have named : modelTypeName spread = .ok "Spread" := by rfl
  have discrete : ∀ v ∈ spread.enumValues.getD [], Discrete v := by
    simp only [spread, Option.getD_some, List.forall_mem_cons]
    exact ⟨.integer _, .integer _, .integer _, .integer _, .integer _, .bool _, .bool _, .null, by simp⟩
  have distinct : (spread.enumValues.getD []).Nodup := by simp [spread]
  obtain ⟨hnames, -, hrendered⟩ := constants_apart (g := {}) rfl .empty named discrete distinct
  exact ⟨named, hnames, hrendered⟩

end Generate

end SchemaGo
