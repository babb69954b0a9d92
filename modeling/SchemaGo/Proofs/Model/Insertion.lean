import Mathlib.Data.List.Induction
import SchemaGo.Model.Index
import SchemaGo.Proofs.Keyed
import SchemaGo.Proofs.Model.ContextName

/-! Indexes built by insertion. Every entry stands under the name of its model, each insertion keeps
that, and so does naming. -/

namespace SchemaGo.Model.Index

theorem get?_iff_mem {x : Index} {key : String} {m : ModelNode} :
    x.get? key = some m ↔ (key, m) ∈ x.entries :=
  ⟨Keyed.mem_of_get?, Keyed.get?_of_mem x.distinct⟩

/-- The index after an insertion; an anonymous model leaves it as it is. -/
def insert (x : Index) (m : ModelNode) : Index :=
  (x.insert? m).getD x

/-- The index that the insertions of some models build up, one after the other. -/
def ofModels (l : List ModelNode) : Index :=
  l.foldl insert empty

theorem ofModels_append (l : List ModelNode) (m : ModelNode) :
    ofModels (l ++ [m]) = (ofModels l).insert m := by
  simp [ofModels]

theorem keys_insert {x : Index} {m : ModelNode} {id : String} (h : m.id = some id) :
    (x.insert m).keys = if id ∈ x.keys then x.keys else x.keys ++ [id] := by
  have hput : (x.insert m).keys = Keyed.keys (Keyed.put x.entries id m) := by
    simp [Index.insert, insert?, h, keys]
  rw [hput, Keyed.keys_put]
  rfl

/-- The keys are the names of the models in the order of their first insertions. -/
theorem keys_ofModels (l : List ModelNode) : (ofModels l).keys = (l.filterMap (·.id)).eraseDups := by
  induction l using List.reverseRecOn with
  | nil => rfl
  | append_singleton l m ih =>
    rw [ofModels_append, List.filterMap_append, List.eraseDups_append, ← ih]
    cases hid : m.id with
    | none => simp [Index.insert, insert?, hid]
    | some id =>
      have hone : [m].filterMap (·.id) = [id] := by simp [hid]
      have hmem : id ∈ (ofModels l).keys ↔ id ∈ l.filterMap (·.id) := by rw [ih, List.mem_eraseDups]
      rw [keys_insert hid, hone]
      generalize l.filterMap (·.id) = names at hmem
      by_cases hold : id ∈ names
      · rw [if_pos (hmem.2 hold)]
        simp [List.removeAll, hold]
      · rw [if_neg (mt hmem.1 hold)]
        simp [List.removeAll, List.eraseDups_cons, hold]

/-- Under a key stands the model of that name that was inserted last. -/
theorem get?_ofModels (l : List ModelNode) (key : String) :
    (ofModels l).get? key = l.reverse.find? (·.id = some key) := by
  induction l using List.reverseRecOn with
  | nil => rfl
  | append_singleton l m ih =>
    rw [ofModels_append, List.reverse_append, List.reverse_singleton, List.singleton_append,
      List.find?_cons, ← ih]
    cases hid : m.id with
    | none => simp [Index.insert, insert?, hid]
    | some id =>
      by_cases hkey : id = key
      · simp [Index.insert, insert?, hid, get?, hkey, Keyed.get?_put_self]
      · simp [Index.insert, insert?, hid, get?, hkey, Keyed.get?_put_of_ne]

/-- Every entry has its model's name as its key. -/
def KeyedByName (x : Index) : Prop :=
  ∀ p ∈ x.entries, p.2.id = some p.1

theorem KeyedByName.insert {x : Index} (h : x.KeyedByName) (m : ModelNode) :
    (x.insert m).KeyedByName := by
  unfold Index.insert insert?
  cases hid : m.id with
  | none => exact h
  | some id =>
    intro p hp
    rcases Keyed.mem_put hp with rfl | hp
    · exact hid
    · exact h p hp

theorem KeyedByName.foldl_insert {x : Index} (h : x.KeyedByName) (l : List ModelNode) :
    (l.foldl Index.insert x).KeyedByName := by
  induction l generalizing x with
  | nil => exact h
  | cons m r ih => exact ih (h.insert m)

theorem keyedByName_ofModels (l : List ModelNode) : (ofModels l).KeyedByName :=
  KeyedByName.foldl_insert (fun _ h => absurd h List.not_mem_nil) l

theorem KeyedByName.withContextNames {x : Index} (h : x.KeyedByName) :
    x.withContextNames.KeyedByName := by
  intro q hq
  obtain ⟨p, hpq⟩ := x.exists_entry_before hq
  obtain ⟨hkey, hnamed⟩ := List.forall₂_zip x.entries_named hpq
  rw [hnamed.id_eq, hkey]
  exact h p (List.of_mem_zip hpq).1

end SchemaGo.Model.Index
