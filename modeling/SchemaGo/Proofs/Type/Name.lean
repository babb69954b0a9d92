import SchemaGo.Type.OfNode
import SchemaGo.Proofs.Model.Insertion
import SchemaGo.Proofs.Naming.Exported

/-! The declared types that a type mentions. A type is a declared type or a built-in one under any
number of arrays and dictionaries, so it mentions one at most. The type of a node mentions the name of
a struct or an enum that is written in its place, or the name of a reference. -/

namespace SchemaGo.TypeExpr

open Model (Index ModelNode)
open Model.ModelNode (childInduction mem_descendants)

/-- The declared type that a type mentions. -/
def name? : TypeExpr → Option String
  | .array element => element.name?
  | .dictionary value => value.name?
  | .named name => some name
  | _ => none

theorem name?_ofName {s name : String} (h : (ofName s).name? = some name) : s = name := by
  unfold ofName at h
  split at h
  · simp [name?] at h
  · simpa [name?] using h

theorem name?_common {l : List TypeExpr} {name : String} (h : (common l).name? = some name) :
    ∃ t ∈ l, t.name? = some name := by
  cases l with
  | nil => simp [common, name?] at h
  | cons t ts =>
    simp only [common] at h
    split at h
    · exact ⟨t, by simp, h⟩
    · simp [name?] at h

theorem ofList_eq (alias? : String → Option TypeExpr) (l : List ModelNode) :
    ofList alias? l = l.map (ofNode alias?) := by
  induction l with
  | nil => rfl
  | cons n r ih => simp [ofList, ih]

/-- The type of a node that is no reference and has no declared name, by its tag. -/
def inPlace (alias? : String → Option TypeExpr) (n : ModelNode) : TypeExpr :=
  match n.singleType? with
  | some .string => .string
  | some .integer => .int
  | some .number => .float
  | some .boolean => .bool
  | some .object =>
    .dictionary (if n.properties.isEmpty then ofOption alias? n.additionalProperties else .any)
  | some .array => .array (ofOption alias? n.items)
  | some .tuple => .array (common (ofList alias? n.tupleItems))
  | some .union => common (ofList alias? n.variants)
  | some .reference => .any
  | some .unconstrained => .any
  | none => .any

theorem ofNode_eq (alias? : String → Option TypeExpr) (n : ModelNode) :
    ofNode alias? n =
      match n.reference with
      | some target => ofReference alias? target
      | none =>
        match declaredName? n with
        | some name => .named name
        | none => inPlace alias? n := by
  obtain ⟨_, _, _, _, _, _, _, _, _, reference, _⟩ := n
  cases reference with
  | none => rfl
  | some target => rfl

theorem name?_ofOption {alias? : String → Option TypeExpr} {o : Option ModelNode} {name : String}
    (h : (ofOption alias? o).name? = some name) :
    ∃ c ∈ o.toList, (ofNode alias? c).name? = some name := by
  cases o with
  | none => simp [ofOption, name?] at h
  | some c => exact ⟨c, by simp, h⟩

/-- A type written in place mentions only what the type of some child mentions. -/
theorem name?_inPlace {alias? : String → Option TypeExpr} {n : ModelNode} {name : String}
    (h : (inPlace alias? n).name? = some name) :
    ∃ c ∈ n.children, (ofNode alias? c).name? = some name := by
  have hlist : ∀ l : List ModelNode, (common (ofList alias? l)).name? = some name →
      ∃ c ∈ l, (ofNode alias? c).name? = some name := by
    intro l hl
    obtain ⟨t, ht, hname⟩ := name?_common hl
    rw [ofList_eq] at ht
    obtain ⟨c, hc, rfl⟩ := List.mem_map.1 ht
    exact ⟨c, hc, hname⟩
  simp only [ModelNode.children_eq, List.mem_append]
  unfold inPlace at h
  split at h
  case h_5 =>
    simp only [name?] at h
    split at h
    · obtain ⟨c, hc, hname⟩ := name?_ofOption h
      exact ⟨c, by simp [hc], hname⟩
    · simp [name?] at h
  case h_6 =>
    obtain ⟨c, hc, hname⟩ := name?_ofOption h
    exact ⟨c, by simp [hc], hname⟩
  case h_7 =>
    obtain ⟨c, hc, hname⟩ := hlist _ h
    exact ⟨c, by simp [hc], hname⟩
  case h_8 =>
    obtain ⟨c, hc, hname⟩ := hlist _ h
    exact ⟨c, by simp [hc], hname⟩
  all_goals simp [name?] at h

/-- The type of a node mentions the name of a declared model or what a reference stands for, at the
node or below it. -/
theorem name?_ofNode {alias? : String → Option TypeExpr} {n : ModelNode} {name : String}
    (h : (ofNode alias? n).name? = some name) :
    ∃ v ∈ n :: n.descendants, declaredName? v = some name ∨
      ∃ target, v.reference = some target ∧ (ofReference alias? target).name? = some name := by
  induction n using childInduction with
  | step n ih =>
    rw [ofNode_eq] at h
    split at h
    · next target href => exact ⟨n, by simp, .inr ⟨target, href, h⟩⟩
    · split at h
      · next declared hdeclared =>
        obtain rfl : declared = name := by simpa [name?] using h
        exact ⟨n, by simp, .inl hdeclared⟩
      · obtain ⟨c, hc, hname⟩ := name?_inPlace h
        obtain ⟨v, hv, rest⟩ := ih c hc hname
        refine ⟨v, List.mem_cons_of_mem _ (mem_descendants.2 ⟨c, hc, ?_⟩), rest⟩
        exact List.mem_cons.1 hv

/-- A reference mentions the name of its target unless it opens an alias. -/
theorem name?_ofReference {alias? : String → Option TypeExpr} {target name : String}
    (h : (ofReference alias? target).name? = some name) :
    typeName target = name ∨ ∃ t, alias? target = some t ∧ t.name? = some name := by
  unfold ofReference at h
  cases halias : alias? target with
  | none =>
    rw [halias, Option.getD_none] at h
    exact .inl (name?_ofName h)
  | some t =>
    rw [halias, Option.getD_some] at h
    exact .inr ⟨t, rfl, h⟩

theorem name?_within {x : Index} {room : Nat} {opened : List String} {n : ModelNode} {name : String}
    (h : (within x room opened n).name? = some name) :
    ∃ v, (v ∈ n :: n.descendants ∨ v ∈ x.nodes) ∧
      (declaredName? v = some name ∨ ∃ target, v.reference = some target ∧ typeName target = name) := by
  induction room generalizing opened n with
  | zero =>
    obtain ⟨v, hv, hd | ⟨target, href, hname⟩⟩ := name?_ofNode h
    · exact ⟨v, .inl hv, .inl hd⟩
    · rcases name?_ofReference hname with heq | ⟨t, hnone, -⟩
      · exact ⟨v, .inl hv, .inr ⟨target, href, heq⟩⟩
      · cases hnone
  | succ room ih =>
    obtain ⟨v, hv, hd | ⟨target, href, hname⟩⟩ := name?_ofNode h
    · exact ⟨v, .inl hv, .inl hd⟩
    · rcases name?_ofReference hname with heq | ⟨t, halias, ht⟩
      · exact ⟨v, .inl hv, .inr ⟨target, href, heq⟩⟩
      · obtain ⟨m, hget, rfl⟩ :
            ∃ m, x.get? target = some m ∧ within x room (target :: opened) m = t := by
          grind
        -- the nodes of the alias that is opened are nodes of the index
        obtain ⟨w, hw, rest⟩ := ih ht
        refine ⟨w, .inr ?_, rest⟩
        have hm : m ∈ x.models := List.mem_map.2 ⟨(target, m), Index.get?_iff_mem.1 hget, rfl⟩
        rcases hw with hw | hw
        · exact Index.mem_nodes.2 ⟨m, hm, List.mem_cons.1 hw⟩
        · exact hw

/-- The type of a node mentions the name of a declared model or the name of a reference, in the node or
in the index. -/
theorem name?_of {x : Index} {n : ModelNode} {name : String} (h : (of x n).name? = some name) :
    ∃ v, (v ∈ n :: n.descendants ∨ v ∈ x.nodes) ∧
      (declaredName? v = some name ∨ ∃ target, v.reference = some target ∧ typeName target = name) :=
  name?_within h

theorem declaredName?_eq_some {n : ModelNode} {name : String} (h : declaredName? n = some name) :
    n.kind ≠ .other ∧ ∃ id, n.id = some id ∧ typeName id = name := by
  unfold declaredName? at h
  split at h
  · simp at h
  · next hkind =>
    obtain ⟨hmap, -⟩ := Option.filter_eq_some_iff.1 h
    exact ⟨hkind, Option.map_eq_some_iff.1 hmap⟩

/-! ### Texts -/

/-- The characters of a type are those of the built-in types and of the declared type it mentions. -/
theorem forall_mem_text {P : Char → Prop}
    (builtIn : ∀ c ∈ "interface\x7b\x7dmap[string]float64bool".toList, P c) {t : TypeExpr}
    (h : ∀ name, t.name? = some name → ∀ c ∈ name.toList, P c) : ∀ c ∈ t.text.toList, P c := by
  have hbuiltIn : ∀ s : String, s.toList ⊆ "interface\x7b\x7dmap[string]float64bool".toList →
      ∀ c ∈ s.toList, P c :=
    fun s hs c hc => builtIn c (hs hc)
  induction t with
  | array element ih =>
    simp only [text, arrayText, String.toList_append, List.forall_mem_append]
    exact ⟨hbuiltIn "[]" (by decide), ih h⟩
  | dictionary value ih =>
    simp only [text, dictionaryText, String.toList_append, List.forall_mem_append]
    exact ⟨hbuiltIn "map[string]" (by decide), ih h⟩
  | named name => exact h name rfl
  | _ => exact hbuiltIn _ (by decide)

/-- The characters of the type of a node are those of the built-in types and of type names. -/
theorem forall_mem_text_of {P : Char → Prop}
    (builtIn : ∀ c ∈ "interface\x7b\x7dmap[string]float64bool".toList, P c)
    (names : ∀ id, ∀ c ∈ (typeName id).toList, P c) (x : Index) (n : ModelNode) :
    ∀ c ∈ (of x n).text.toList, P c := by
  refine forall_mem_text builtIn fun name hname => ?_
  obtain ⟨v, -, hdeclared | ⟨target, -, rfl⟩⟩ := name?_of hname
  · obtain ⟨-, id, -, rfl⟩ := declaredName?_eq_some hdeclared
    exact names id
  · exact names target

/-- The type of a node is written on one line. -/
theorem oneLine_text_of (x : Index) (n : ModelNode) : Text.OneLine (of x n).text.toList :=
  forall_mem_text_of (by simp) oneLine_typeName x n

end SchemaGo.TypeExpr
