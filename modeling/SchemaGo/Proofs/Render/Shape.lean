import Mathlib.Data.List.Nodup
import SchemaGo.Proofs.Keyed
import SchemaGo.Render.Enum
import SchemaGo.Render.Struct

/-! When a model has a shape. It needs a name with usable characters, and the names of its fields or
constants are pairwise distinct. If they are not, the first item whose name occurred before is found,
together with the one of that name before it. -/

namespace SchemaGo.Render

open Json (Value)
open Model (ModelNode)

/-! ### Repeated names -/

theorem firstRepeatFrom_eq_none_iff {α : Type} (name : α → String) (seen : List (String × α))
    (l : List α) :
    firstRepeatFrom name seen l = none ↔
      (l.map name).Nodup ∧ ∀ a ∈ l, name a ∉ Keyed.keys seen := by
  induction l generalizing seen with
  | nil => simp [firstRepeatFrom]
  | cons a r ih =>
    rw [firstRepeatFrom, List.map_cons, List.nodup_cons, List.forall_mem_cons]
    cases hseen : Keyed.get? seen (name a) with
    | some first =>
      have hmem : name a ∈ Keyed.keys seen := by
        by_contra h
        simp [Keyed.get?_eq_none_iff.2 h] at hseen
      simp [hmem]
    | none =>
      have hnew := Keyed.get?_eq_none_iff.1 hseen
      rw [ih]
      constructor
      · rintro ⟨hnodup, hrest⟩
        simp only [Keyed.keys, List.map_cons, List.mem_cons, not_or] at hrest
        refine ⟨⟨fun hmem => ?_, hnodup⟩, hnew, fun b hb => (hrest b hb).2⟩
        obtain ⟨b, hb, hname⟩ := List.mem_map.1 hmem
        exact (hrest b hb).1 hname
      · rintro ⟨⟨hmem, hnodup⟩, -, hrest⟩
        refine ⟨hnodup, fun b hb hkeys => ?_⟩
        rcases List.mem_cons.1 hkeys with hname | hkeys
        · exact hmem (List.mem_map.2 ⟨b, hb, hname⟩)
        · exact hrest b hb hkeys

/-- No name occurs a second time exactly if the names are distinct. -/
theorem firstRepeat?_eq_none_iff {α : Type} (name : α → String) (l : List α) :
    firstRepeat? name l = none ↔ (l.map name).Nodup := by
  simp [firstRepeat?, firstRepeatFrom_eq_none_iff, Keyed.keys]

/-- Items whose names are new and distinct are passed over. -/
theorem firstRepeatFrom_append {α : Type} {name : α → String} {seen : List (String × α)} {l : List α}
    (apart : (l.map name).Nodup) (new : ∀ a ∈ l, name a ∉ Keyed.keys seen) (rest : List α) :
    firstRepeatFrom name seen (l ++ rest) =
      firstRepeatFrom name ((l.map fun a => (name a, a)).reverse ++ seen) rest := by
  induction l generalizing seen with
  | nil => rfl
  | cons a r ih =>
    obtain ⟨ha, hr⟩ := List.nodup_cons.1 apart
    obtain ⟨hnew, hrest⟩ := List.forall_mem_cons.1 new
    have hgrown : ∀ b ∈ r, name b ∉ Keyed.keys ((name a, a) :: seen) := by
      intro b hb hmem
      rcases List.mem_cons.1 hmem with hname | hmem
      · exact ha (List.mem_map.2 ⟨b, hb, hname⟩)
      · exact hrest b hb hmem
    simp only [List.cons_append, firstRepeatFrom, Keyed.get?_eq_none_iff.2 hnew, ih hr hgrown,
      List.map_cons, List.reverse_cons, List.append_assoc, List.nil_append]

/-- What is found stands behind items of distinct names. -/
theorem exists_of_firstRepeatFrom {α : Type} {name : α → String} {seen : List (String × α)} {l : List α}
    {shared : String} {a b : α} (h : firstRepeatFrom name seen l = some (shared, a, b)) :
    ∃ before behind, l = before ++ b :: behind ∧ shared = name b ∧ (before.map name).Nodup ∧
      (∀ c ∈ before, name c ∉ Keyed.keys seen) ∧ ((name b, a) ∈ seen ∨ a ∈ before ∧ name a = name b) := by
  induction l generalizing seen with
  | nil => cases h
  | cons c r ih =>
    rw [firstRepeatFrom] at h
    cases hseen : Keyed.get? seen (name c) with
    | some first =>
      obtain ⟨rfl, rfl, rfl⟩ : name c = shared ∧ first = a ∧ c = b := by simpa [hseen] using h
      exact ⟨[], r, rfl, rfl, List.nodup_nil, by simp, .inl (Keyed.mem_of_get? hseen)⟩
    | none =>
      rw [hseen] at h
      obtain ⟨before, behind, rfl, rfl, hnodup, hnew, hfirst⟩ := ih h
      simp only [Keyed.keys, List.map_cons, List.mem_cons, not_or] at hnew
      refine ⟨c :: before, behind, rfl, rfl, List.nodup_cons.2 ⟨fun hmem => ?_, hnodup⟩, ?_, ?_⟩
      · obtain ⟨d, hd, hname⟩ := List.mem_map.1 hmem
        exact (hnew d hd).1 hname
      · exact List.forall_mem_cons.2 ⟨Keyed.get?_eq_none_iff.1 hseen, fun d hd => (hnew d hd).2⟩
      · rcases hfirst with hmem | ⟨hmem, hname⟩
        · rcases List.mem_cons.1 hmem with heq | hmem
          · obtain ⟨hname, rfl⟩ := Prod.mk.inj heq
            exact .inr ⟨by simp, hname.symm⟩
          · exact .inl hmem
        · exact .inr ⟨by simp [hmem], hname⟩

/-- The item `b` is the first whose name occurred before, and `a` is the one before it of that name. -/
def FirstRepeat {α : Type} (name : α → String) (l : List α) (a b : α) : Prop :=
  ∃ before between behind, l = before ++ a :: between ++ b :: behind ∧ name a = name b ∧
    ((before ++ a :: between).map name).Nodup

/-- The search finds the first item whose name occurred before, and the one before it of that name. -/
theorem firstRepeat?_eq_some_iff {α : Type} {name : α → String} {l : List α} {shared : String} {a b : α} :
    firstRepeat? name l = some (shared, a, b) ↔ FirstRepeat name l a b ∧ shared = name b := by
  constructor
  · intro h
    obtain ⟨passed, behind, rfl, rfl, hnodup, -, hfirst⟩ := exists_of_firstRepeatFrom h
    obtain ⟨hmem, hname⟩ := hfirst.resolve_left (by simp)
    obtain ⟨before, between, rfl⟩ := List.append_of_mem hmem
    exact ⟨⟨before, between, behind, rfl, hname, hnodup⟩, rfl⟩
  · rintro ⟨⟨before, between, behind, rfl, hname, hnodup⟩, rfl⟩
    let passed := (before ++ a :: between).map fun c => (name c, c)
    have hdistinct : Keyed.Distinct passed.reverse := by
      rw [Keyed.Distinct, Keyed.keys, List.map_reverse, List.nodup_reverse, List.map_map]
      exact hnodup
    have hget : Keyed.get? passed.reverse (name b) = some a := by
      refine Keyed.get?_of_mem hdistinct (List.mem_reverse.2 (List.mem_map.2 ⟨a, by simp, ?_⟩))
      rw [hname]
    rw [firstRepeat?, firstRepeatFrom_append hnodup (by simp [Keyed.keys]), List.append_nil,
      firstRepeatFrom, hget]

/-! ### Shapes -/

theorem modelTypeName_eq_ok_iff {n : ModelNode} {type : String} :
    modelTypeName n = .ok type ↔ ∃ id, n.id = some id ∧ typeName id = type ∧ type ≠ "" := by
  unfold modelTypeName
  cases n.id with
  | none => simp
  | some id =>
    by_cases h : typeName id = ""
    · simp [h]
    · have hne : typeName id = type → type ≠ "" := fun htype => htype ▸ h
      simpa [h] using hne

theorem structShape_eq_ok_iff {n : ModelNode} {type : String} {fields : List Field} :
    structShape n = .ok (type, fields) ↔
      modelTypeName n = .ok type ∧ ((structFields n).map fun f => fieldName f.key).Nodup ∧
        fields = structFields n := by
  rw [← firstRepeat?_eq_none_iff]
  unfold structShape
  cases modelTypeName n with
  | error e => simp [bind, Except.bind]
  | ok t =>
    dsimp only [bind, Except.bind]
    cases firstRepeat? (fun f : Field => fieldName f.key) (structFields n) with
    | none => simp [eq_comm]
    | some repeated => simp

theorem enumShape_eq_ok_iff {n : ModelNode} {type : String} {constants : List (String × Value)} :
    enumShape n = .ok (type, constants) ↔
      modelTypeName n = .ok type ∧ ((n.enumValues.getD []).map (constantName type)).Nodup ∧
        constants = (n.enumValues.getD []).map fun v => (constantName type v, v) := by
  unfold enumShape
  cases modelTypeName n with
  | error e => simp [bind, Except.bind]
  | ok t =>
    have hnames := firstRepeat?_eq_none_iff (fun c : String × Value => c.1)
      ((n.enumValues.getD []).map fun v => (constantName t v, v))
    rw [List.map_map] at hnames
    dsimp only [bind, Except.bind]
    cases h : firstRepeat? (fun c : String × Value => c.1)
        ((n.enumValues.getD []).map fun v => (constantName t v, v)) with
    | none =>
      have hnodup := hnames.1 h
      constructor
      · rintro ⟨⟩
        exact ⟨rfl, hnodup, rfl⟩
      · rintro ⟨⟨⟩, -, rfl⟩
        rfl
    | some repeated =>
      have hnodup : ¬ _ := fun hnodup => by simpa [h] using hnames.2 hnodup
      constructor
      · rintro ⟨⟩
      · rintro ⟨⟨⟩, hnodup', -⟩
        exact absurd hnodup' hnodup

end SchemaGo.Render
