import SchemaGo.Proofs.Number.Text
import SchemaGo.Render.Constant

/-! Texts of values on one line. Strings are written without control characters, since the escapes stand
for them. -/

namespace SchemaGo

open Text (OneLine)

namespace Json

/-- No control character stands in the text. -/
def Printable (l : List Char) : Prop :=
  ∀ c ∈ l, 0x20 ≤ c.toNat

instance (l : List Char) : Decidable (Printable l) :=
  List.decidableBAll _ l

/-- A line ends with a control character. -/
theorem Printable.oneLine {l : List Char} (h : Printable l) : OneLine l := by
  intro c hc
  constructor <;> rintro rfl <;> exact absurd (h _ hc) (by decide)

theorem printable_append {a b : List Char} : Printable (a ++ b) ↔ Printable a ∧ Printable b := by
  simp only [Printable, List.forall_mem_append]

theorem printable_hexPair : ∀ n < 0x20, Printable (hexPair n) := by
  decide

theorem printable_escape (c : Char) : Printable (escape c) := by
  unfold escape
  iterate 7
    split
    · decide
  split
  · next hcontrol =>
    have hunit : Printable ['\\', 'u', '0', '0'] := by decide
    exact printable_append.2 ⟨hunit, printable_hexPair _ hcontrol⟩
  · next hplain => simpa [Printable] using hplain

/-- A quoted string has no control characters, whatever the string holds. -/
theorem printable_quote (s : String) : Printable (quote s).toList := by
  simp only [quote, String.toList_append, String.toList_ofList, printable_append]
  refine ⟨⟨by decide, ?_⟩, by decide⟩
  intro c hc
  obtain ⟨d, -, hd⟩ := List.mem_flatMap.1 hc
  exact printable_escape d c hd

theorem oneLine_quote (s : String) : OneLine (quote s).toList :=
  (printable_quote s).oneLine

end Json

open Json (Value) in
theorem Render.oneLine_literal (v : Value) : OneLine (literal v).toList := by
  cases v with
  | null => decide
  | bool b => cases b <;> decide
  | number n => exact n.oneLine_text
  | string s => exact Json.oneLine_quote s
  | array items => exact Json.oneLine_quote _
  | object members => exact Json.oneLine_quote _

end SchemaGo
