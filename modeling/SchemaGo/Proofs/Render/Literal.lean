import SchemaGo.Proofs.Json.Parser
import SchemaGo.Proofs.Json.Printer
import SchemaGo.Proofs.Text.Literal
import SchemaGo.Render.Constant

/-! What the literals of constants stand for. A string is read back from its literal whatever it holds, and
so is the text of an array or an object, from which the value can be read in turn. An integer is written in
decimal and any other number with a point or an exponent, so a value that has a type has a literal that a
constant of the type can have. Whether an integer is small enough for its type is not considered. -/

namespace SchemaGo

open Json (Value escape hexPair quote)

/-! ### Strings -/

namespace Text

theorem codePoint?_hexPair :
    ∀ n < 0x20, Toml.codePoint? ('0' :: '0' :: hexPair n) = some (Char.ofNat n) := by
  decide

/-- A character is read back from its escape. -/
theorem interpreted_escape (c : Char) (rest : List Char) :
    interpreted 0 (escape c ++ rest) =
      (interpreted 0 rest).map fun (v, rest) => (String.utf8EncodeChar c ++ v, rest) := by
  unfold escape
  iterate 7
    split
    · next h =>
      subst h
      rfl
  split
  · next hcontrol =>
    have hescape : escape? ('u' :: '0' :: '0' :: hexPair c.toNat ++ rest) =
        some (String.utf8EncodeChar c, 5) := by
      have hpoint := codePoint?_hexPair c.toNat hcontrol
      rw [Char.ofNat_toNat] at hpoint
      exact (congrArg (Option.map fun p => (String.utf8EncodeChar p, 5)) hpoint :)
    rw [List.cons_append, interpreted, if_neg (by decide), if_neg (by decide), if_pos rfl, hescape,
      Option.bind_some]
    rfl
  · next hquote hslash _ _ hnewline _ _ _ =>
    rw [List.singleton_append, interpreted, if_neg hquote, if_neg hnewline, if_neg hslash]

/-- A string is read back from its literal. -/
theorem interpreted_quoted (cs rest : List Char) :
    interpreted 0 (cs.flatMap escape ++ '\x22' :: rest) = some (bytes cs, rest) := by
  induction cs with
  | nil => rfl
  | cons c cs ih =>
    rw [List.flatMap_cons, List.append_assoc, interpreted_escape, ih]
    rfl

theorem unquote?_quote (s : String) : unquote? (quote s) = some s := by
  have hquote : (quote s).toList = '\x22' :: (s.toList.flatMap escape ++ ['\x22']) := by simp [quote]
  simp only [unquote?, hquote, interpreted_quoted, fromUTF8?_bytes]

end Text

/-! ### Values -/

namespace Render

open Number (IsFloat IsInteger Signed)

/-- The value has the type, where an integer is a number as well. -/
def Fits : TypeExpr → Value → Prop
  | .any, _ => True
  | .string, v => ∃ s, v = .string s
  | .bool, v => ∃ b, v = .bool b
  | .int, v => ∃ n, v = .number (.integer n)
  | .float, v => ∃ x, v = .number x
  | _, _ => False

/-- The literal is one that a constant of the type can have: a string in quotes that reads to its end, a
truth value, an integer, or any number. -/
def CanHold : TypeExpr → List Char → Prop
  | .any, _ => True
  | .string, l => ∃ cs v, l = '\x22' :: cs ∧ Text.interpreted 0 cs = some (v, [])
  | .bool, l => l = "true".toList ∨ l = "false".toList
  | .int, l => Signed IsInteger l
  | .float, l => Signed (fun u => IsInteger u ∨ IsFloat u) l
  | _, _ => False

theorem canHold_literal {t : TypeExpr} {v : Value} (h : Fits t v) : CanHold t (literal v).toList := by
  cases t with
  | any => trivial
  | string =>
    obtain ⟨s, rfl⟩ := h
    refine ⟨s.toList.flatMap escape ++ ['\x22'], Text.bytes s.toList, ?_, Text.interpreted_quoted _ []⟩
    simp [literal, Value.text, quote]
  | bool =>
    obtain ⟨b, rfl⟩ := h
    cases b <;> simp [literal, Value.text, CanHold]
  | int =>
    obtain ⟨n, rfl⟩ := h
    exact Number.signed_integer n
  | float =>
    obtain ⟨x, rfl⟩ := h
    cases x with
    | integer n =>
      exact (Number.signed_integer n).imp (Q := fun u => IsInteger u ∨ IsFloat u) fun _ => .inl
    | double x =>
      exact (Number.signed_double x).imp (Q := fun u => IsInteger u ∨ IsFloat u) fun _ => .inr
  | _ => cases h

/-! ### Reading literals back -/

/-- The literal is a string in quotes that stands for the text. It holds no control character, so it is
written on one line. -/
structure Quotes (literal s : String) : Prop where
  quoted : ∃ inner, literal = "\"" ++ inner ++ "\""
  printable : Json.Printable literal.toList
  oneLine : Text.OneLine literal.toList
  reads : Text.unquote? literal = some s

theorem quotes_quote (s : String) : Quotes (quote s) s where
  quoted := ⟨_, rfl⟩
  printable := Json.printable_quote s
  oneLine := Json.oneLine_quote s
  reads := Text.unquote?_quote s

/-- The value is an array or an object. -/
def Composite (v : Value) : Prop :=
  (∃ items, v = .array items) ∨ ∃ members, v = .object members

theorem literal_composite {v : Value} (h : Composite v) : literal v = quote v.text := by
  rcases h with ⟨items, rfl⟩ | ⟨members, rfl⟩ <;> rfl

/-- The literal of a string stands for the string, and that of an array or an object for its text. The value
is read back from the text wherever its arrays and objects have room inside each other, provided that its
numbers read back from theirs. -/
theorem literals_read_back :
    (∀ s, Quotes (literal (.string s)) s) ∧
      ∀ v, Composite v → Quotes (literal v) v.text ∧
        (v.DistinctKeys → (∀ x ∈ v.numbers, x.ReadsBack) → ∀ room,
          (Json.parse? v.text).bind (Json.Raw.value? room) = some v ↔ v.raw.depth ≤ room) := by
  refine ⟨quotes_quote, fun v hv => ⟨?_, Json.value?_text_iff⟩⟩
  rw [literal_composite hv]
  exact quotes_quote v.text

/-- An object within an array, with a key and a string that are escaped, and two numbers. -/
def nested : Value :=
  .array [.object [("a\"b", .string "\n\u0001é")], .number (.integer (-3)),
    .number (.double ⟨false, Nat.pow 2 52, -53⟩)]

theorem literals_read_back_nested :
    Composite nested ∧ nested.raw.depth = 2 ∧
      literal nested = "\"[\x7b\\\"a\\\\\\\"b\\\":\\\"\\\\n\\\\u0001é\\\"\x7d,-3,0.5]\"" ∧
      Text.unquote? (literal nested) = some nested.text ∧
      (Json.parse? nested.text).bind (Json.Raw.value? 2) = some nested := by
  have hcomposite : Composite nested := .inl ⟨_, rfl⟩
  have hkeys : nested.DistinctKeys := by
    refine .array ?_
    simp only [List.forall_mem_cons]
    refine ⟨.object (by decide) ?_, .number _, .number _, by simp⟩
    simpa using Value.DistinctKeys.string _
  have hnumbers : ∀ x ∈ nested.numbers, x.ReadsBack := by
    have hlist : nested.numbers = [.integer (-3), .double ⟨false, Nat.pow 2 52, -53⟩] := by decide
    rw [hlist, List.forall_mem_cons, List.forall_mem_singleton]
    exact ⟨Number.readsBack_integer (by decide) (by decide), ⟨false, [0], [5], none⟩,
      by decide +kernel, by decide +kernel⟩
  obtain ⟨hquotes, hread⟩ := literals_read_back.2 nested hcomposite
  exact ⟨hcomposite, by decide, by decide +kernel, hquotes.reads,
    (hread hkeys hnumbers 2).2 (by decide)⟩

end Render

end SchemaGo
