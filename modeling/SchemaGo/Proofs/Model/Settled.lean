import SchemaGo.Proofs.Model.ContextName

/-! Settled nodes: those that naming leaves as they are, since they have a name or need none. A naming
leaves a tree of settled nodes as it is, and the nodes below an entry with a name are settled in the
named index, so naming such an entry again changes nothing. -/

namespace SchemaGo.Model

namespace ModelNode

/-- The node has a name or needs none. -/
def Settled (n : ModelNode) : Prop :=
  n.id = none → n.needsDeclaration = false

theorem claimName_settled {place : String} {n : ModelNode} (h : n.Settled) (taken : List String) :
    claimName place n taken = (n.id, taken) := by
  unfold claimName
  split
  · next hclaim =>
    obtain ⟨anonymous, needs⟩ := Bool.and_eq_true_iff.1 hclaim
    rw [h (Option.isNone_iff_eq_none.1 anonymous)] at needs
    cases needs
  · rfl

mutual

theorem nameBelow_settled (context : String) (n : ModelNode) (taken : List String)
    (h : ∀ c ∈ n.descendants, c.Settled) : nameBelow context n taken = (n, taken) := by
  obtain ⟨id, type, properties, required, additional, patterns, items, tuple, variants, reference,
    values⟩ := n
  simp only [descendants, List.forall_mem_append] at h
  obtain ⟨⟨⟨⟨⟨hproperties, hadditional⟩, hpatterns⟩, hitems⟩, htuple⟩, hvariants⟩ := h
  simp only [nameBelow, nameEntries_settled _ _ properties _ hproperties,
    nameOption_settled _ _ additional _ hadditional, nameEntries_settled _ _ patterns _ hpatterns,
    nameOption_settled _ _ items _ hitems, nameList_settled _ _ _ tuple _ htuple,
    nameList_settled _ _ _ variants _ hvariants]

theorem nameEntries_settled (position : String → Position) (context : String)
    (l : List (String × ModelNode)) (taken : List String) (h : ∀ c ∈ entryDescendants l, c.Settled) :
    nameEntries position context l taken = (l, taken) := by
  match l with
  | [] => rfl
  | (key, n) :: r =>
    simp only [entryDescendants, List.cons_append, List.forall_mem_cons, List.forall_mem_append] at h
    obtain ⟨hn, hbelow, hr⟩ := h
    simp only [nameEntries, claimName_settled hn, nameBelow_settled _ n _ hbelow,
      nameEntries_settled _ _ r _ hr]
    cases n; rfl

theorem nameOption_settled (position : Position) (context : String) (o : Option ModelNode)
    (taken : List String) (h : ∀ c ∈ optionDescendants o, c.Settled) :
    nameOption position context o taken = (o, taken) := by
  match o with
  | none => rfl
  | some n =>
    simp only [optionDescendants, List.forall_mem_cons] at h
    obtain ⟨hn, hbelow⟩ := h
    simp only [nameOption, claimName_settled hn, nameBelow_settled _ n _ hbelow]
    cases n; rfl

theorem nameList_settled (position : Nat → Position) (context : String) (i : Nat)
    (l : List ModelNode) (taken : List String) (h : ∀ c ∈ listDescendants l, c.Settled) :
    nameList position context i l taken = (l, taken) := by
  match l with
  | [] => rfl
  | n :: r =>
    simp only [listDescendants, List.cons_append, List.forall_mem_cons, List.forall_mem_append] at h
    obtain ⟨hn, hbelow, hr⟩ := h
    simp only [nameList, claimName_settled hn, nameBelow_settled _ n _ hbelow,
      nameList_settled _ _ _ r _ hr]
    cases n; rfl

end

theorem nameNested_settled {m : ModelNode} (h : ∀ c ∈ m.descendants, c.Settled)
    (taken : List String) : (m.nameNested taken).1 = m := by
  unfold nameNested
  split
  · rw [nameBelow_settled _ m _ h]
  · rfl

/-- Below a model with a name, a naming leaves no node unsettled. -/
theorem ModelNamed.settled {n m : ModelNode} (h : ModelNamed n m) (hid : n.id.isSome) :
    ∀ d ∈ m.descendants, d.Settled := by
  intro d hd anonymous
  obtain ⟨c, hcd⟩ := Index.exists_zip_of_mem h.below.length_eq hd
  have hnamed := List.forall₂_zip h.below hcd
  have hnodes := List.forall₂_zip (List.forall₂_cons.1 h.nodes).2 hcd
  have hneeds : d.needsDeclaration = c.needsDeclaration := by
    rw [← needsDeclaration_unnamed d, hnodes.unnamed_eq, needsDeclaration_unnamed]
  cases hc : c.needsDeclaration with
  | false => rw [hneeds, hc]
  | true =>
    cases hcid : c.id with
    | none => simp [NamedFrom, hid, hcid, hc, anonymous] at hnamed
    | some id => simpa [anonymous] using hnodes.id_eq id hcid

end ModelNode

namespace Index

theorem get?_nameModels (l : List (String × ModelNode)) (taken : List String) (key : String) :
    ∃ t, Keyed.get? (nameModels l taken) key =
      (Keyed.get? l key).map fun m => (m.nameNested t).1 := by
  induction l generalizing taken with
  | nil => exact ⟨taken, rfl⟩
  | cons p r ih =>
    simp only [nameModels, Keyed.get?]
    split
    · exact ⟨taken, rfl⟩
    · exact ih _

/-- Naming an index names each entry at its key. -/
theorem get?_withContextNames (x : Index) (key : String) :
    ∃ taken, x.withContextNames.get? key = (x.get? key).map fun m => (m.nameNested taken).1 :=
  get?_nameModels x.entries x.ids key

/-- No node below an entry with a name is unsettled. -/
def Settled (x : Index) : Prop :=
  ∀ m ∈ x.models, m.id.isSome → ∀ c ∈ m.descendants, c.Settled

theorem settled_withContextNames (x : Index) : x.withContextNames.Settled := by
  intro m hm hid
  obtain ⟨q, hq, rfl⟩ := List.mem_map.1 hm
  obtain ⟨p, hpq⟩ := x.exists_entry_before hq
  have hnamed := (List.forall₂_zip x.entries_named hpq).2
  exact hnamed.settled (hnamed.id_eq ▸ hid)

theorem nameModels_settled {l : List (String × ModelNode)}
    (h : ∀ p ∈ l, p.2.id.isSome → ∀ c ∈ p.2.descendants, c.Settled) (taken : List String) :
    nameModels l taken = l := by
  induction l generalizing taken with
  | nil => rfl
  | cons p r ih =>
    obtain ⟨hp, hr⟩ := List.forall_mem_cons.1 h
    have hsame : (p.2.nameNested taken).1 = p.2 := by
      cases hid : p.2.id with
      | none => simp [ModelNode.nameNested, hid]
      | some id => exact ModelNode.nameNested_settled (hp (by simp [hid])) taken
    simp only [nameModels, hsame, ih hr]

theorem withContextNames_of_settled {x : Index} (h : x.Settled) : x.withContextNames = x := by
  obtain ⟨entries, distinct⟩ := x
  simp only [withContextNames, mk.injEq]
  exact nameModels_settled (fun p hp => h p.2 (List.mem_map.2 ⟨p, hp, rfl⟩)) _

/-- A second naming changes nothing. -/
theorem withContextNames_idem (x : Index) : x.withContextNames.withContextNames = x.withContextNames :=
  withContextNames_of_settled x.settled_withContextNames

end Index

end SchemaGo.Model
