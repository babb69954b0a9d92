import SchemaGo.Proofs.Type.Name

/-! Types and their texts. A declared type is not written like a built-in one, so types whose declared
names are type names are equal if their texts are. The text of a node's type can therefore be computed
from the texts of the types below the node, where a list of types is compared by the texts. -/

namespace SchemaGo.TypeExpr

open Model (Index ModelNode TypeTag)

/-- The type mentions no declared type but one with a type name. -/
def Named (t : TypeExpr) : Prop :=
  ∀ name, t.name? = some name → ∃ id, typeName id = name

theorem named_within (x : Index) (room : Nat) (opened : List String) (n : ModelNode) :
    (within x room opened n).Named := by
  intro name hname
  obtain ⟨v, -, hdeclared | ⟨target, -, htarget⟩⟩ := name?_within hname
  · obtain ⟨-, id, -, hid⟩ := declaredName?_eq_some hdeclared
    exact ⟨id, hid⟩
  · exact ⟨target, htarget⟩

/-- The text starts like that of a built-in type. -/
def BuiltInText (s : String) : Prop :=
  ∃ c, s.toList.head? = some c ∧ (c.isLower = true ∨ c = '[')

theorem not_builtInText_typeName (id : String) : ¬ BuiltInText (typeName id) := by
  rintro ⟨c, hhead, hlower | rfl⟩
  · rw [head?_typeName hhead] at hlower
    cases hlower
  · exact (unmarked_typeName id).not_mem (by decide) (List.mem_of_head? hhead)

theorem builtInText_text {t : TypeExpr} (h : ∀ name, t ≠ .named name) : BuiltInText t.text := by
  cases t with
  | named name => exact absurd rfl (h name)
  | array element => exact ⟨'[', by simp [text, arrayText], .inr rfl⟩
  | dictionary value => exact ⟨'m', by simp [text, dictionaryText], .inl rfl⟩
  | any => exact ⟨'i', by simp [text, anyText], .inl rfl⟩
  | string => exact ⟨'s', by simp [text], .inl rfl⟩
  | int => exact ⟨'i', by simp [text], .inl rfl⟩
  | float => exact ⟨'f', by simp [text], .inl rfl⟩
  | bool => exact ⟨'b', by simp [text], .inl rfl⟩

theorem eq_named_of_text {t : TypeExpr} {name : String} (hname : (named name).Named) (h : t.text = name) :
    t = .named name := by
  by_cases hnamed : ∃ other, t = .named other
  · obtain ⟨other, rfl⟩ := hnamed
    exact congrArg named h
  · obtain ⟨id, rfl⟩ := hname name rfl
    have hbuiltIn := builtInText_text fun other hother => hnamed ⟨other, hother⟩
    rw [h] at hbuiltIn
    exact absurd hbuiltIn (not_builtInText_typeName id)

/-- Types with these names are equal if they are written alike. -/
theorem text_injective {t u : TypeExpr} (ht : t.Named) (hu : u.Named) (h : t.text = u.text) : t = u := by
  have hlist := congrArg String.toList h
  induction t generalizing u with
  | named name => exact (eq_named_of_text ht h.symm).symm
  | array element ih =>
    cases u with
    | named name => exact eq_named_of_text hu h
    | array other =>
      have helement : element.text = other.text := by simpa [text, arrayText] using h
      exact congrArg array (ih ht hu helement (congrArg String.toList helement))
    | _ => simp [text, arrayText, dictionaryText, anyText] at hlist
  | dictionary value ih =>
    cases u with
    | named name => exact eq_named_of_text hu h
    | dictionary other =>
      have hvalue : value.text = other.text := by simpa [text, dictionaryText] using h
      exact congrArg dictionary (ih ht hu hvalue (congrArg String.toList hvalue))
    | _ => simp [text, arrayText, dictionaryText, anyText] at hlist
  | _ =>
    cases u with
    | named name => exact eq_named_of_text hu h
    | _ => simp [text, arrayText, dictionaryText, anyText] at hlist ⊢

/-! ### Texts of nodes -/

/-- The text of the declared type of a name; the empty name has none. -/
def nameText (name : String) : String :=
  if name.isEmpty then anyText else name

/-- The text that all of a list are, or that of the type of any value. -/
def commonText : List String → String
  | [] => anyText
  | s :: ss => if ss.all (· = s) then s else anyText

/-- The text that a tag gives a node, where `type` gives the texts of the types of other nodes. -/
def tagText (type : ModelNode → String) (n : ModelNode) : TypeTag → String
  | .string => "string"
  | .integer => "int"
  | .number => "float64"
  | .boolean => "bool"
  | .object =>
    "map[string]" ++ if n.properties.isEmpty then n.additionalProperties.elim anyText type else anyText
  | .array => "[]" ++ n.items.elim anyText type
  | .tuple => "[]" ++ commonText (n.tupleItems.map type)
  | .union => commonText (n.variants.map type)
  | .reference => anyText
  | .unconstrained => anyText

/-- The text of the type of a node, where `alias?` gives the texts of the aliases that may be opened and
`type` those of the nodes below. -/
def nodeText (alias? : String → Option String) (type : ModelNode → String) (n : ModelNode) : String :=
  match n.reference with
  | some target => (alias? target).getD (nameText (typeName target))
  | none =>
    match declaredName? n with
    | some name => name
    | none => n.singleType?.elim anyText (tagText type n)

/-- The text of a node's type goes by the alias that it refers to, or by its name, or by what its tag makes
of the texts below. -/
theorem nodeText_congr {alias? alias?' : String → Option String} {type type' : ModelNode → String}
    {n n' : ModelNode} (hreference : n.reference = n'.reference)
    (hname : declaredName? n = declaredName? n')
    (halias : ∀ target, n.reference = some target → alias? target = alias?' target)
    (hplace : n.reference = none → declaredName? n = none →
      n.singleType?.elim anyText (tagText type n) = n'.singleType?.elim anyText (tagText type' n')) :
    nodeText alias? type n = nodeText alias?' type' n' := by
  unfold nodeText
  rw [← hreference, ← hname]
  cases href : n.reference with
  | some target => simp only [halias target href]
  | none =>
    cases hdeclared : declaredName? n with
    | some name => rfl
    | none => exact hplace href hdeclared

theorem text_ofName (name : String) : (ofName name).text = nameText name := by
  unfold ofName nameText
  split <;> rfl

theorem text_common {l : List TypeExpr} (h : ∀ t ∈ l, t.Named) :
    (common l).text = commonText (l.map text) := by
  cases l with
  | nil => rfl
  | cons t ts =>
    obtain ⟨ht, hts⟩ := List.forall_mem_cons.1 h
    have hall : (ts.map text).all (· = t.text) = ts.all (· = t) := by
      rw [List.all_map, Bool.eq_iff_iff, List.all_eq_true, List.all_eq_true]
      refine forall₂_congr fun u hu => ?_
      simpa using ⟨text_injective (hts u hu) ht, congrArg text⟩
    simp only [common, List.map_cons, commonText, hall]
    split <;> rfl

/-- The text of a node's type comes from the texts of the types of its children. -/
theorem text_ofNode {alias? : String → Option TypeExpr} {n : ModelNode}
    (h : ∀ c ∈ n.children, (ofNode alias? c).Named) :
    (ofNode alias? n).text =
      nodeText (fun target => (alias? target).map text) (fun c => (ofNode alias? c).text) n := by
  have hoption : ∀ o : Option ModelNode,
      (ofOption alias? o).text = o.elim anyText fun c => (ofNode alias? c).text := by
    rintro (_ | c) <;> rfl
  have hlist : ∀ l : List ModelNode, (∀ c ∈ l, c ∈ n.children) →
      (common (ofList alias? l)).text = commonText (l.map fun c => (ofNode alias? c).text) := by
    intro l hl
    have hnamed : ∀ t ∈ l.map (ofNode alias?), t.Named := by
      simpa using fun c hc => h c (hl c hc)
    rw [ofList_eq, text_common hnamed, List.map_map]
    rfl
  rw [ofNode_eq, nodeText]
  cases n.reference with
  | some target =>
    simp only [ofReference]
    cases alias? target with
    | none => rw [Option.getD_none, Option.map_none, Option.getD_none, text_ofName]
    | some t => rfl
  | none =>
    cases declaredName? n with
    | some name => rfl
    | none =>
      simp only [inPlace]
      cases n.singleType? with
      | none => rfl
      | some tag =>
        cases tag with
        | object =>
          simp only [Option.elim_some, tagText, text, dictionaryText]
          split
          · rw [hoption]
          · rfl
        | array => simp only [Option.elim_some, tagText, text, arrayText, hoption]
        | tuple =>
          simp only [Option.elim_some, tagText, text, arrayText]
          rw [hlist n.tupleItems fun c hc => by simp [ModelNode.children_eq, hc]]
        | union => exact hlist n.variants fun c hc => by simp [ModelNode.children_eq, hc]
        | _ => rfl

end SchemaGo.TypeExpr
