import SchemaGo.Proofs.Model.OwnName

/-! Models that are named without being in the index. The names in the index and the model's own are
taken, and of the names below the model those that are in the index. So a new name is never one of the
index, but it may be a name that stands elsewhere in the model. It is none if the model is named as it
would be with all names in it taken, and in particular if they are all in the index. -/

namespace SchemaGo.Model.Index

open ModelNode (filterMap_id_perm gained gained_nameNested modelNamed_nameNested nameNested_congr
  nameNested_fresh)

/-- The names given below a model are distinct, and neither in the index nor in the model. -/
def NewNamesFresh (x : Index) (m : ModelNode) : Prop :=
  (x.ownNames m).Nodup ∧ (∀ a ∈ x.ownNames m, a ∉ x.ids) ∧ ∀ a ∈ x.ownNames m, a ∉ m.ids

section

variable (x : Index) (m : ModelNode)

/-- The names in a model that has been named are those it had and the new ones. -/
theorem ids_nameNested_perm : (x.nameNested m).ids.Perm (m.ids ++ x.ownNames m) := by
  have hperm := filterMap_id_perm (modelNamed_nameNested m x.ids).nodes
  rwa [gained_nameNested] at hperm

theorem newNamesFresh_iff_not_mem : x.NewNamesFresh m ↔ ∀ a ∈ x.ownNames m, a ∉ m.ids := by
  obtain ⟨hnodup, hindex⟩ := x.ownNames_fresh m
  exact ⟨fun h => h.2.2, fun h => ⟨hnodup, hindex, h⟩⟩

/-- A new name stands at one node only exactly if it was not in the model. -/
theorem count_ids_nameNested {a : String} (ha : a ∈ x.ownNames m) :
    (x.nameNested m).ids.count a = 1 ↔ a ∉ m.ids := by
  have hnew : (x.ownNames m).count a = 1 := List.count_eq_one_of_mem (x.ownNames_fresh m).1 ha
  rw [(x.ids_nameNested_perm m).count_eq, List.count_append, hnew, ← List.count_eq_zero]
  omega

/-- The new names are fresh exactly if they are the names given when all names in the model are taken. -/
theorem newNamesFresh_iff_named :
    x.NewNamesFresh m ↔ x.nameNested m = (m.nameNested (m.ids ++ x.ids)).1 := by
  rw [newNamesFresh_iff_not_mem]
  constructor
  · intro h
    refine (nameNested_congr (fun a ha hmem => ?_) (.inl (List.subset_append_right _ _))).symm
    rcases List.mem_append.1 hmem with hown | hindex
    · exact h a ha hown
    · exact (x.ownNames_fresh m).2 a ha hindex
  · intro h a ha hown
    obtain ⟨-, hfree, -⟩ := nameNested_fresh m (m.ids ++ x.ids)
    rw [gained_nameNested, ← h] at hfree
    exact hfree a ha (List.mem_append_left _ hown)

/-- The names given below a model are distinct and not in the index. They are not in the model either
exactly if each of them then stands at one node only, and exactly if they are the names given when all
names in the model are taken. So it is where these are in the index. -/
theorem new_names_fresh_iff :
    (x.ownNames m).Nodup ∧ (∀ a ∈ x.ownNames m, a ∉ x.ids) ∧
      (x.NewNamesFresh m ↔ ∀ a ∈ x.ownNames m, (x.nameNested m).ids.count a = 1) ∧
      (x.NewNamesFresh m ↔ x.nameNested m = (m.nameNested (m.ids ++ x.ids)).1) ∧
      (m.ids ⊆ x.ids → x.NewNamesFresh m) := by
  obtain ⟨hnodup, hindex⟩ := x.ownNames_fresh m
  refine ⟨hnodup, hindex, ?_, x.newNamesFresh_iff_named m, fun hsub => ?_⟩
  · rw [newNamesFresh_iff_not_mem]
    exact forall₂_congr fun a ha => (x.count_ids_nameNested m ha).symm
  · exact ⟨hnodup, hindex, fun a ha hown => hindex a ha (hsub hown)⟩

end

/-! ### A name that stands elsewhere in the model -/

/-- An object with an enum without a name, and an object whose name is the enum's place. -/
def neighbours : ModelNode where
  id := some "a"
  type := some (.single .object)
  properties := [("b", { enumValues := some [.string "x"] }),
    ("c", { id := some "a_b", type := some (.single .object) })]

/-- The enum gets the name of the object. -/
theorem neighbours_not_fresh :
    ¬ empty.NewNamesFresh neighbours ∧
      (empty.nameNested neighbours).descendants.map (·.id) = [some "a_b", some "a_b"] := by
  refine ⟨fun ⟨_, _, hfresh⟩ => ?_, by decide⟩
  exact hfresh "a_b" (by decide) (by decide)

end SchemaGo.Model.Index
