import Mathlib.Data.List.Perm.Subperm
import Mathlib.Logic.Relation
import SchemaGo.Proofs.Type.Alias
import SchemaGo.Proofs.Type.Text

/-! The recursion behind the type of a node. At each of its points some aliases are open, and the text of
a node's type is put together from the texts at the points that are called: those of children, with the
same aliases open, and that of an alias, which is opened unless it is open already. The open aliases are
pairwise distinct keys of the index, so calls come to an end whatever cycles the aliases form, and the
type of a node has room for all aliases that can be open at once. -/

namespace SchemaGo.TypeExpr

open Model (Index ModelNode)
open Relation (ReflTransGen)

/-! ### Points and calls -/

/-- A point of the recursion: the aliases that are open, the last one first, and the node. -/
structure Point where
  opened : List String
  node : ModelNode

/-- The children that the type of a node in its place goes by. -/
def asked (n : ModelNode) : List ModelNode :=
  match n.singleType? with
  | some .object => if n.properties.isEmpty then n.additionalProperties.toList else []
  | some .array => n.items.toList
  | some .tuple => n.tupleItems
  | some .union => n.variants
  | _ => []

/-- The recursive calls at a point. -/
inductive Calls (x : Index) : Point → Point → Prop
  | child {opened : List String} {n c : ModelNode} (reference : n.reference = none)
      (unnamed : declaredName? n = none) (h : c ∈ asked n) : Calls x ⟨opened, n⟩ ⟨opened, c⟩
  | opening {opened : List String} {n m : ModelNode} {target : String}
      (reference : n.reference = some target) (h : alias? x target = some m) (new : target ∉ opened) :
      Calls x ⟨opened, n⟩ ⟨target :: opened, m⟩

/-- The text at a point, where `call` gives the texts at other points. -/
def pointText (x : Index) (call : Point → String) (p : Point) : String :=
  nodeText
    (fun target =>
      if target ∈ p.opened then none else (alias? x target).map fun m => call ⟨target :: p.opened, m⟩)
    (fun c => call ⟨p.opened, c⟩) p.node

theorem asked_subset (n : ModelNode) : asked n ⊆ n.children := by
  intro c hc
  simp only [ModelNode.children_eq, List.mem_append]
  unfold asked at hc
  split at hc
  · split at hc
    · simp [hc]
    · simp at hc
  all_goals simp_all

/-- The nodes differ in the children only, which correspond to each other wherever the type asks for
them. -/
structure AskedAlike (R : ModelNode → ModelNode → Prop) (n n' : ModelNode) : Prop where
  type : n.singleType? = n'.singleType?
  properties : n.properties.isEmpty = n'.properties.isEmpty
  additional : Option.Rel R n.additionalProperties n'.additionalProperties
  items : Option.Rel R n.items n'.items
  tuple : List.Forall₂ R n.tupleItems n'.tupleItems
  variants : List.Forall₂ R n.variants n'.variants

theorem askedAlike_eq (n : ModelNode) : AskedAlike (· = ·) n n := by
  have hoption : ∀ o : Option ModelNode, Option.Rel (· = ·) o o := by
    rintro (_ | c)
    · exact .none
    · exact .some rfl
  exact ⟨rfl, rfl, hoption _, hoption _, List.forall₂_refl _, List.forall₂_refl _⟩

/-- What a tag makes of two nodes goes by the texts of the children that it asks for. -/
theorem tagText_congr {R : ModelNode → ModelNode → Prop} {f g : ModelNode → String} {n n' : ModelNode}
    (halike : AskedAlike R n n') (h : ∀ c ∈ asked n, ∀ c', R c c' → f c = g c') :
    n.singleType?.elim anyText (tagText f n) = n'.singleType?.elim anyText (tagText g n') := by
  have hoption : ∀ o o' : Option ModelNode, Option.Rel R o o' →
      (∀ c ∈ o.toList, ∀ c', R c c' → f c = g c') → o.elim anyText f = o'.elim anyText g := by
    intro o o' hrel ho
    cases hrel with
    | none => rfl
    | some hc => exact ho _ (by simp) _ hc
  have hlist : ∀ l l' : List ModelNode, List.Forall₂ R l l' → (∀ c ∈ l, ∀ c', R c c' → f c = g c') →
      l.map f = l'.map g := by
    intro l l' hrel hl
    induction hrel with
    | nil => rfl
    | cons hhead _ ih =>
      obtain ⟨hc, hrest⟩ := List.forall_mem_cons.1 hl
      rw [List.map_cons, List.map_cons, hc _ hhead, ih hrest]
  unfold asked at h
  rw [← halike.type]
  cases htype : n.singleType? with
  | none => rfl
  | some tag =>
    rw [htype] at h
    cases tag with
    | object =>
      simp only [Option.elim_some, tagText, ← halike.properties]
      split
      · next hempty => rw [hoption _ _ halike.additional fun c hc => h c (by simpa [hempty] using hc)]
      · rfl
    | array => simp only [Option.elim_some, tagText, hoption _ _ halike.items h]
    | tuple => simp only [Option.elim_some, tagText, hlist _ _ halike.tuple h]
    | union => simp only [Option.elim_some, tagText, hlist _ _ halike.variants h]
    | _ => rfl

/-- The text at a point goes by the texts at the points that are called. -/
theorem pointText_congr {x : Index} {f g : Point → String} {p : Point}
    (h : ∀ q, Calls x p q → f q = g q) : pointText x f p = pointText x g p := by
  obtain ⟨opened, n⟩ := p
  refine nodeText_congr rfl rfl (fun target hreference => ?_) fun hreference hname => ?_
  · by_cases hopened : target ∈ opened
    · simp [hopened]
    · cases halias : alias? x target with
      | none => rfl
      | some m => simp [hopened, h _ (.opening hreference halias hopened)]
  · exact tagText_congr (askedAlike_eq n) fun c hc _ heq => heq ▸ h _ (.child hreference hname hc)

/-! ### The open aliases -/

theorem mem_keys_of_alias? {x : Index} {key : String} {m : ModelNode} (h : alias? x key = some m) :
    key ∈ x.keys := by
  obtain ⟨hget, -⟩ := Option.filter_eq_some_iff.1 h
  exact List.mem_map.2 ⟨(key, m), Keyed.mem_of_get? hget, rfl⟩

/-- No key is open twice. -/
structure OpenedOnce (x : Index) (p : Point) : Prop where
  distinct : p.opened.Nodup
  keys : p.opened ⊆ x.keys

theorem OpenedOnce.call {x : Index} {p q : Point} (hp : OpenedOnce x p) (h : Calls x p q) :
    OpenedOnce x q := by
  cases h with
  | child _ _ _ => exact ⟨hp.distinct, hp.keys⟩
  | opening _ halias hnew =>
    exact ⟨List.nodup_cons.2 ⟨hnew, hp.distinct⟩,
      List.cons_subset.2 ⟨mem_keys_of_alias? halias, hp.keys⟩⟩

theorem OpenedOnce.calls {x : Index} {p q : Point} (hp : OpenedOnce x p)
    (h : ReflTransGen (Calls x) p q) : OpenedOnce x q := by
  induction h with
  | refl => exact hp
  | tail _ hcall ih => exact ih.call hcall

/-- As many aliases are open at once as there are entries, at most. -/
theorem OpenedOnce.length_le {x : Index} {p : Point} (h : OpenedOnce x p) : p.opened.length ≤ x.size := by
  have hle := (h.distinct.subperm h.keys).length_le
  simpa [Index.keys, Keyed.keys, Index.size] using hle

/-- The number of keys that are not open. -/
def unopened (x : Index) (opened : List String) : Nat :=
  (x.keys.filter (· ∉ opened)).length

theorem unopened_cons {x : Index} {opened : List String} {key : String} (hkey : key ∈ x.keys)
    (hnew : key ∉ opened) : unopened x (key :: opened) + 1 = unopened x opened := by
  have hdistinct : (x.keys.filter (· ∉ opened)).Nodup := x.distinct.filter _
  have hmem : key ∈ x.keys.filter (· ∉ opened) := by simp [hkey, hnew]
  have herase : (x.keys.filter (· ∉ opened)).erase key = x.keys.filter (· ∉ key :: opened) := by
    rw [hdistinct.erase_eq_filter, List.filter_filter]
    refine List.filter_congr fun k _ => ?_
    by_cases hk : k = key <;> simp [hk]
  have hlength := List.length_erase_of_mem hmem
  have hpos := List.length_pos_of_mem hmem
  rw [herase] at hlength
  unfold unopened
  omega

/-! ### The end of the recursion -/

/-- There is no endless row of calls: an alias that is opened leaves fewer keys to open, and a child is
smaller than its parent. -/
theorem wellFounded_calls (x : Index) : WellFounded fun q p => Calls x p q := by
  let size (p : Point) : Nat × Nat := (unopened x p.opened, sizeOf p.node)
  have hsize : WellFounded (InvImage (Prod.Lex (· < ·) (· < ·)) size) :=
    InvImage.wf size (Prod.lex Nat.lt_wfRel Nat.lt_wfRel).wf
  refine Subrelation.wf (fun {q p} hcall => ?_) hsize
  cases hcall with
  | child _ _ hasked => exact .right _ (ModelNode.sizeOf_lt_of_mem_children (asked_subset _ hasked))
  | opening _ halias hnew =>
    have hfewer := unopened_cons (mem_keys_of_alias? halias) hnew
    exact .left _ _ (by dsimp only; omega)

/-- The type at a point. -/
def typeAt (x : Index) (p : Point) : TypeExpr :=
  within x (unopened x p.opened) p.opened p.node

theorem typeAt_eq (x : Index) (opened : List String) (n : ModelNode) :
    typeAt x ⟨opened, n⟩ =
      ofNode (fun target =>
        if target ∈ opened then none
        else (alias? x target).map fun m => typeAt x ⟨target :: opened, m⟩) n := by
  simp only [typeAt]
  cases hroom : unopened x opened with
  | zero =>
    -- every key is open, so there is no alias that room is missing for
    have hnone : (fun target =>
        if target ∈ opened then none
        else (alias? x target).map fun m =>
          within x (unopened x (target :: opened)) (target :: opened) m) = fun _ => none := by
      funext target
      split
      · rfl
      · next hnew =>
        cases halias : alias? x target with
        | none => rfl
        | some m =>
          have := unopened_cons (mem_keys_of_alias? halias) hnew
          omega
    rw [hnone]
    rfl
  | succ room =>
    rw [within_succ]
    congr 1
    funext target
    split
    · rfl
    · next hnew =>
      cases halias : alias? x target with
      | none => rfl
      | some m =>
        have hrest := unopened_cons (mem_keys_of_alias? halias) hnew
        have hroom' : unopened x (target :: opened) = room := by omega
        simp [hroom']

/-- The type at a point is what the recursion makes of the types at the points that are called. -/
theorem text_typeAt (x : Index) (p : Point) :
    (typeAt x p).text = pointText x (fun q => (typeAt x q).text) p := by
  obtain ⟨opened, n⟩ := p
  have hnamed : ∀ c ∈ n.children, (ofNode (fun target =>
      if target ∈ opened then none
      else (alias? x target).map fun m => typeAt x ⟨target :: opened, m⟩) c).Named := by
    intro c _
    rw [← typeAt_eq]
    exact named_within _ _ _ _
  rw [typeAt_eq, text_ofNode hnamed, pointText]
  congr 1
  · funext target
    dsimp only
    split
    · rfl
    · simp [Function.comp_def]
  · funext c
    rw [typeAt_eq]

theorem of_eq_typeAt (x : Index) (n : ModelNode) : of x n = typeAt x ⟨[], n⟩ := by
  have hall : unopened x [] = x.size := by simp [unopened, Index.keys, Keyed.keys, Index.size]
  rw [of, typeAt, hall]

/-- Texts that satisfy the recursion are those of the types. -/
theorem eq_text_typeAt {x : Index} {f : Point → String} (hf : ∀ p, f p = pointText x f p) (p : Point) :
    f p = (typeAt x p).text := by
  induction p using (wellFounded_calls x).induction with
  | _ p ih => rw [hf, text_typeAt, pointText_congr ih]

/-- A call is for a child with the same aliases open, or opens one alias more. -/
theorem Calls.child_or_opening {x : Index} {p q : Point} (h : Calls x p q) :
    (q.opened = p.opened ∧ q.node ∈ p.node.children) ∨
      ∃ target, p.node.reference = some target ∧ target ∉ p.opened ∧
        q.opened = target :: p.opened ∧ alias? x target = some q.node := by
  cases h with
  | child _ _ hasked => exact .inl ⟨rfl, asked_subset _ hasked⟩
  | opening hreference halias hnew => exact .inr ⟨_, hreference, hnew, rfl, halias⟩

/-- The recursion ends for every index. The text at a point goes by the texts at the points called, of
which there is no endless row, so one function satisfies the recursion, and it gives every node the text
of its type. At every point that is reached from a node the open aliases are distinct keys of the index,
and a call keeps them or opens one more. -/
theorem recursion_ends (x : Index) :
    (∀ p f g, (∀ q, Calls x p q → f q = g q) → pointText x f p = pointText x g p) ∧
      (WellFounded fun q p => Calls x p q) ∧
      (∃ f, (∀ p, f p = pointText x f p) ∧ (∀ g, (∀ p, g p = pointText x g p) → g = f) ∧
        ∀ n, f ⟨[], n⟩ = (of x n).text) ∧
      ∀ n p, ReflTransGen (Calls x) ⟨[], n⟩ p →
        (p.opened.Nodup ∧ p.opened ⊆ x.keys ∧ p.opened.length ≤ x.size) ∧
          ∀ q, Calls x p q →
            (q.opened = p.opened ∧ q.node ∈ p.node.children) ∨
              ∃ target, p.node.reference = some target ∧ target ∉ p.opened ∧
                q.opened = target :: p.opened ∧ alias? x target = some q.node := by
  refine ⟨fun _ _ _ => pointText_congr, wellFounded_calls x, ?_, fun n p hp => ?_⟩
  · exact ⟨fun p => (typeAt x p).text, text_typeAt x, fun g hg => funext (eq_text_typeAt hg),
      fun n => by rw [of_eq_typeAt]⟩
  · have hopened : OpenedOnce x p := OpenedOnce.calls ⟨List.nodup_nil, List.nil_subset _⟩ hp
    exact ⟨⟨hopened.distinct, hopened.keys, hopened.length_le⟩, fun _ => Calls.child_or_opening⟩

/-- Two aliases that refer to each other, by an element and by the variants of a union. -/
example :
    (of (.ofModels [
        { id := some "a", type := some (.single .array), items := some { reference := some "b" } },
        { id := some "b", type := some (.single .union),
          variants := [{ reference := some "a" }, { reference := some "a" }] }])
      { reference := some "a" }).text = "[]A" := by decide

end SchemaGo.TypeExpr
