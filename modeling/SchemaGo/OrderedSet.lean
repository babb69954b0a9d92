/-! Finite sets as strictly ascending lists, so that equal sets are equal data. -/

namespace SchemaGo

structure OrderedSet (α : Type) [LT α] where
  toList : List α
  ascending : toList.Pairwise (· < ·)

namespace OrderedSet

variable {α : Type} [LT α]

def empty : OrderedSet α :=
  ⟨[], .nil⟩

instance : Inhabited (OrderedSet α) := ⟨empty⟩

def contains [DecidableEq α] (s : OrderedSet α) (x : α) : Bool :=
  x ∈ s.toList

variable [DecidableLT α]

/-- Puts `x` into its place in an ascending list; of two incomparable elements the first stays. -/
def insertList (x : α) : List α → List α
  | [] => [x]
  | y :: ys => if x < y then x :: y :: ys else if y < x then y :: insertList x ys else y :: ys

theorem mem_of_mem_insertList {x z : α} {l : List α} (h : z ∈ insertList x l) : z = x ∨ z ∈ l := by
  induction l with
  | nil => simpa [insertList] using h
  | cons y ys ih =>
    simp only [insertList] at h
    split at h
    · simpa using h
    · split at h
      · rcases List.mem_cons.1 h with h | h
        · simp [h]
        · rcases ih h with h | h <;> simp [h]
      · exact .inr h

variable [Trans (· < · : α → α → Prop) (· < · : α → α → Prop) (· < · : α → α → Prop)]

theorem pairwise_insertList {x : α} {l : List α} (h : l.Pairwise (· < ·)) :
    (insertList x l).Pairwise (· < ·) := by
  induction l with
  | nil => simp [insertList]
  | cons y ys ih =>
    obtain ⟨hy, hys⟩ := List.pairwise_cons.1 h
    simp only [insertList]
    split
    · rename_i hxy
      refine List.pairwise_cons.2 ⟨fun z hz => ?_, h⟩
      rcases List.mem_cons.1 hz with rfl | hz
      · exact hxy
      · exact Trans.trans hxy (hy z hz)
    · split
      · rename_i hyx
        refine List.pairwise_cons.2 ⟨fun z hz => ?_, ih hys⟩
        rcases mem_of_mem_insertList hz with rfl | hz
        · exact hyx
        · exact hy z hz
      · exact h

def insert (s : OrderedSet α) (x : α) : OrderedSet α :=
  ⟨insertList x s.toList, pairwise_insertList s.ascending⟩

def ofList (l : List α) : OrderedSet α :=
  l.foldl insert empty

instance : Trans (· < · : String → String → Prop) (· < · : String → String → Prop)
    (· < · : String → String → Prop) :=
  ⟨String.lt_trans⟩

end OrderedSet

end SchemaGo
