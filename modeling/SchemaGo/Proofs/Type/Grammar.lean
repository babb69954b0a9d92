import SchemaGo.Proofs.Type.Name
import SchemaGo.Render.Renderer

/-! The grammar of the types that are written. A type is a built-in one or a name, under any number of
arrays and dictionaries. The empty name stands nowhere: what has no usable name has the type of any value,
and so has what names itself through an alias. So the text of a type is never empty, which would leave an
array or a star with nothing behind it, and it is one word. -/

namespace SchemaGo

/-! ### White space -/

namespace Text

/-- Code points of the Unicode property `White_Space`. -/
def Table.whiteSpace : List CodeRun := [
    ⟨0x9, 0xd, 1⟩, ⟨0x20, 0x20, 1⟩, ⟨0x85, 0x85, 1⟩, ⟨0xa0, 0xa0, 1⟩, ⟨0x1680, 0x1680, 1⟩,
    ⟨0x2000, 0x200a, 1⟩, ⟨0x2028, 0x2029, 1⟩, ⟨0x202f, 0x202f, 1⟩, ⟨0x205f, 0x205f, 1⟩,
    ⟨0x3000, 0x3000, 1⟩]

def isWhiteSpace (c : Char) : Bool :=
  inRuns Table.whiteSpace c

theorem isWhiteSpace_eq_false {c : Char}
    (h : ∀ s ∈ Table.whiteSpace, c.toNat < s.first ∨ s.last < c.toNat) : isWhiteSpace c = false := by
  by_contra hspace
  obtain ⟨s, hs, hc⟩ := List.any_eq_true.1 (by simpa using hspace : isWhiteSpace c = true)
  obtain ⟨hfirst, hlast, -⟩ := CodeRun.contains_iff.1 hc
  have := h s ((List.takeWhile_sublist _).subset hs)
  omega

theorem outside_whiteSpace {c : Char} (h : isWord c = true) :
    ∀ s ∈ Table.whiteSpace, c.toNat < s.first ∨ s.last < c.toNat := by
  have hruns : ∀ s ∈ Table.whiteSpace, ∀ r ∈ Table.alphanumeric, r.last < s.first ∨ s.last < r.first := by
    decide +kernel
  exact fun s hs => isWord_outside (hruns s hs) h

theorem not_isWhiteSpace_upper {c : Char} (h : isWord c = true) :
    ∀ d ∈ upper c, isWhiteSpace d = false := by
  have himages : ∀ s ∈ Table.whiteSpace, ∀ r ∈ Table.upperRuns,
      r.image + (r.source.last - r.source.first) < s.first ∨ s.last < r.image := by
    decide +kernel
  have hexpanded : ∀ s ∈ Table.whiteSpace, ∀ e ∈ Table.upperExpansions, ∀ n ∈ e.2,
      n < s.first ∨ s.last < n := by
    decide +kernel
  exact fun d hd => isWhiteSpace_eq_false fun s hs =>
    upperTables.outside (himages s hs) (hexpanded s hs)
      (fun _ => outside_whiteSpace h s hs) d hd

end Text

open Text (isWhiteSpace)

theorem not_isWhiteSpace_typeName (id : String) : ∀ c ∈ (typeName id).toList, isWhiteSpace c = false :=
  forall_mem_typeName (by decide) (fun _ h => Text.isWhiteSpace_eq_false (Text.outside_whiteSpace h))
    (fun _ => Text.not_isWhiteSpace_upper) id

namespace TypeExpr

open Model (Index ModelNode)

/-! ### The grammar -/

/-- The texts of types whose names are `Name`. -/
inductive TypeText (Name : String → Prop) : String → Prop
  | any : TypeText Name "interface\x7b\x7d"
  | string : TypeText Name "string"
  | int : TypeText Name "int"
  | float : TypeText Name "float64"
  | bool : TypeText Name "bool"
  | array {t : String} (element : TypeText Name t) : TypeText Name ("[]" ++ t)
  | dictionary {t : String} (value : TypeText Name t) : TypeText Name ("map[string]" ++ t)
  | named {name : String} (h : Name name) : TypeText Name name

theorem typeText_text {Name : String → Prop} {t : TypeExpr} (h : ∀ name, t.name? = some name → Name name) :
    TypeText Name t.text := by
  induction t with
  | any => exact .any
  | string => exact .string
  | int => exact .int
  | float => exact .float
  | bool => exact .bool
  | array element ih => exact .array (ih h)
  | dictionary value ih => exact .dictionary (ih h)
  | named name => exact .named (h name rfl)

theorem TypeText.ne_empty {Name : String → Prop} {s : String} (h : TypeText Name s)
    (hname : ∀ name, Name name → name ≠ "") : s ≠ "" := by
  cases h with
  | named h => exact hname s h
  | array element => simp
  | dictionary value => simp
  | _ => decide

/-! ### The names of types -/

theorem name?_ofName_ne (s : String) : (ofName s).name? ≠ some "" := by
  unfold ofName
  split
  · simp [name?]
  · next hne => simpa [name?] using hne

theorem declaredName?_ne (n : ModelNode) : declaredName? n ≠ some "" := by
  unfold declaredName?
  split
  · simp
  · intro h
    obtain ⟨-, hne⟩ := Option.filter_eq_some_iff.1 h
    simp at hne

/-- The type of a node mentions no empty name if no alias that it opens does. -/
theorem name?_ofNode_ne {alias? : String → Option TypeExpr}
    (halias : ∀ target t, alias? target = some t → t.name? ≠ some "") (n : ModelNode) :
    (ofNode alias? n).name? ≠ some "" := by
  intro h
  obtain ⟨v, -, hdeclared | ⟨target, -, hname⟩⟩ := name?_ofNode h
  · exact declaredName?_ne v hdeclared
  · unfold ofReference at hname
    cases hopen : alias? target with
    | none => exact name?_ofName_ne (typeName target) (by simpa [hopen] using hname)
    | some t => exact halias target t hopen (by simpa [hopen] using hname)

theorem name?_within_ne (x : Index) (room : Nat) (opened : List String) (n : ModelNode) :
    (within x room opened n).name? ≠ some "" := by
  induction room generalizing opened n with
  | zero => exact name?_ofNode_ne (by simp) n
  | succ room ih =>
    refine name?_ofNode_ne (fun target t hopen => ?_) n
    obtain ⟨m, rfl⟩ : ∃ m, within x room (target :: opened) m = t := by
      grind
    exact ih (target :: opened) m

/-- A name of a node or of an index: the type name of an identifier or a reference in it. -/
structure NamedIn (x : Index) (n : ModelNode) (name : String) : Prop where
  ne_empty : name ≠ ""
  source : ∃ v, (v ∈ n :: n.descendants ∨ v ∈ x.nodes) ∧
    ∃ id, (v.id = some id ∨ v.reference = some id) ∧ typeName id = name

theorem namedIn_of_name? {x : Index} {n : ModelNode} {name : String} (h : (of x n).name? = some name) :
    NamedIn x n name where
  ne_empty := by
    rintro rfl
    exact name?_within_ne x x.size [] n h
  source := by
    obtain ⟨v, hv, hdeclared | ⟨target, href, hname⟩⟩ := name?_of h
    · obtain ⟨-, id, hid, hname⟩ := declaredName?_eq_some hdeclared
      exact ⟨v, hv, id, .inl hid, hname⟩
    · exact ⟨v, hv, target, .inr href, hname⟩

end TypeExpr

namespace Render

open Model (ModelNode)
open TypeExpr (NamedIn TypeText)

/-- The type of every node is written by the grammar, with names of the node and the index. It is not empty,
it starts with no star and there is no white space in it. -/
theorem typeText_by_grammar (r : Renderer) (n : ModelNode) :
    TypeText (NamedIn r.index n) (r.typeText n) ∧ r.typeText n ≠ "" ∧
      (r.typeText n).toList.head? ≠ some '*' ∧ ∀ c ∈ (r.typeText n).toList, isWhiteSpace c = false := by
  have hgrammar : TypeText (NamedIn r.index n) (r.typeText n) :=
    TypeExpr.typeText_text fun _ => TypeExpr.namedIn_of_name?
  have hchars : ∀ c ∈ (r.typeText n).toList, c ≠ '*' ∧ isWhiteSpace c = false := by
    refine TypeExpr.forall_mem_text_of ?_ (fun id c hc => ⟨?_, ?_⟩) r.index n
    · simp [isWhiteSpace, Text.inRuns, Text.Table.whiteSpace, Text.CodeRun.contains]
    · rintro rfl
      exact (fromDigits_typeName id).not_mem (by decide) hc
    · exact not_isWhiteSpace_typeName id c hc
  exact ⟨hgrammar, hgrammar.ne_empty fun _ h => h.ne_empty,
    fun hhead => (hchars '*' (List.mem_of_head? hhead)).1 rfl, fun c hc => (hchars c hc).2⟩

-- An alias of itself whose name has no letter.
example : Renderer.typeText ⟨{}, .ofModels [{ id := some "-", reference := some "-" }]⟩
    { reference := some "-" } = "interface\x7b\x7d" := by
  decide +kernel

end Render

end SchemaGo
