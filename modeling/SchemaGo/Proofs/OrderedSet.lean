import SchemaGo.OrderedSet

/-! Ordered sets. The elements of a set, put in one after the other, give the set again. -/

namespace SchemaGo.OrderedSet

variable {α : Type} [LT α]

@[ext]
theorem ext {s t : OrderedSet α} (h : s.toList = t.toList) : s = t := by
  cases s
  cases t
  cases h
  rfl

variable [DecidableLT α]

theorem insertList_of_forall_lt (asymm : ∀ a b : α, a < b → ¬ b < a) {x : α} {l : List α}
    (h : ∀ y ∈ l, y < x) : insertList x l = l ++ [x] := by
  induction l with
  | nil => rfl
  | cons y r ih =>
    rw [List.forall_mem_cons] at h
    rw [insertList, if_neg (asymm y x h.1), if_pos h.1, ih h.2]
    rfl

variable [Trans (· < · : α → α → Prop) (· < · : α → α → Prop) (· < · : α → α → Prop)]

theorem toList_foldl_insert (asymm : ∀ a b : α, a < b → ¬ b < a) {s : OrderedSet α} {l : List α}
    (h : (s.toList ++ l).Pairwise (· < ·)) : (l.foldl insert s).toList = s.toList ++ l := by
  induction l generalizing s with
  | nil => simp
  | cons x r ih =>
    have hinsert : (s.insert x).toList = s.toList ++ [x] :=
      insertList_of_forall_lt asymm fun y hy => (List.pairwise_append.1 h).2.2 y hy x List.mem_cons_self
    rw [List.foldl_cons, ih (by simpa [hinsert] using h), hinsert, List.append_assoc]
    rfl

/-- An ordered set is the set of its elements. -/
theorem ofList_toList (asymm : ∀ a b : α, a < b → ¬ b < a) (s : OrderedSet α) :
    OrderedSet.ofList s.toList = s :=
  ext (toList_foldl_insert asymm (s := empty) s.ascending)

end SchemaGo.OrderedSet
