import SchemaGo.Keyed

/-! Association lists. Where the keys are distinct, looking a key up finds its only entry. Putting entries
one after the other keeps them as they are if no key occurs twice. -/

namespace SchemaGo.Keyed

variable {α : Type}

instance (l : List (String × α)) : Decidable (Distinct l) :=
  inferInstanceAs (Decidable (keys l).Nodup)

/-! ### Looking up -/

theorem mem_of_get? {l : List (String × α)} {key : String} {a : α} (h : get? l key = some a) :
    (key, a) ∈ l := by
  induction l with
  | nil => simp [get?] at h
  | cons p r ih =>
    obtain ⟨k, b⟩ := p
    simp only [get?] at h
    split at h
    · next hk =>
      obtain rfl : b = a := by simpa using h
      simp [hk]
    · exact List.mem_cons_of_mem _ (ih h)

theorem get?_of_mem {l : List (String × α)} (hl : Distinct l) {key : String} {a : α}
    (h : (key, a) ∈ l) : get? l key = some a := by
  induction l with
  | nil => simp at h
  | cons p r ih =>
    obtain ⟨k, b⟩ := p
    simp only [Distinct, keys, List.map_cons, List.nodup_cons] at hl
    rcases List.mem_cons.1 h with heq | hr
    · obtain ⟨rfl, rfl⟩ := Prod.mk.inj heq
      simp [get?]
    · have hne : k ≠ key := by
        rintro rfl
        exact hl.1 (List.mem_map.2 ⟨(k, a), hr, rfl⟩)
      simp only [get?, if_neg hne]
      exact ih hl.2 hr

theorem get?_map {β : Type} (f : α → β) (l : List (String × α)) (key : String) :
    get? (l.map fun p => (p.1, f p.2)) key = (get? l key).map f := by
  induction l with
  | nil => rfl
  | cons p r ih =>
    simp only [List.map_cons, get?]
    split
    · rfl
    · exact ih

theorem get?_eq_none_iff {l : List (String × α)} {key : String} :
    get? l key = none ↔ key ∉ keys l := by
  induction l with
  | nil => simp [get?, keys]
  | cons p r ih =>
    obtain ⟨k, a⟩ := p
    by_cases h : k = key
    · simp [get?, keys, h]
    · simpa [get?, keys, h, Ne.symm h] using ih

theorem exists_split_of_get? {l : List (String × α)} {key : String} {a : α} (h : get? l key = some a) :
    ∃ before behind, l = before ++ (key, a) :: behind ∧ key ∉ keys before := by
  induction l with
  | nil => simp [get?] at h
  | cons p r ih =>
    obtain ⟨k, b⟩ := p
    simp only [get?] at h
    split at h
    · next hk =>
      obtain rfl : b = a := by simpa using h
      exact ⟨[], r, by simp [hk], by simp [keys]⟩
    · next hk =>
      obtain ⟨before, behind, rfl, hkey⟩ := ih h
      exact ⟨(k, b) :: before, behind, rfl, by simpa [keys, Ne.symm hk] using hkey⟩

theorem get?_append_of_not_mem {before : List (String × α)} {key : String} (h : key ∉ keys before)
    (behind : List (String × α)) : get? (before ++ behind) key = get? behind key := by
  induction before with
  | nil => rfl
  | cons p r ih =>
    simp only [keys, List.map_cons, List.mem_cons, not_or] at h
    rw [List.cons_append, get?, if_neg (Ne.symm h.1)]
    exact ih h.2

/-! ### Putting -/

theorem mem_put {l : List (String × α)} {key : String} {x : α} {p : String × α}
    (h : p ∈ put l key x) : p = (key, x) ∨ p ∈ l := by
  induction l with
  | nil => simpa [put] using h
  | cons q r ih =>
    obtain ⟨k, a⟩ := q
    simp only [put] at h
    split at h
    · next hk =>
      rcases List.mem_cons.1 h with rfl | h
      · exact .inl (by rw [hk])
      · exact .inr (by simp [h])
    · rcases List.mem_cons.1 h with rfl | h
      · exact .inr (by simp)
      · exact (ih h).imp_right fun h => by simp [h]

theorem mem_of_mem_foldl_put {acc l : List (String × α)} {p : String × α}
    (h : p ∈ l.foldl (fun acc q => put acc q.1 q.2) acc) : p ∈ acc ∨ p ∈ l := by
  induction l generalizing acc with
  | nil => exact .inl h
  | cons q r ih =>
    rcases ih h with h | h
    · rcases mem_put h with rfl | h
      · exact .inr (by simp)
      · exact .inl h
    · exact .inr (by simp [h])

theorem mem_of_mem_ofList {l : List (String × α)} {p : String × α} (h : p ∈ ofList l) : p ∈ l :=
  (mem_of_mem_foldl_put h).resolve_left (by simp)

theorem put_of_not_mem {l : List (String × α)} {key : String} (h : key ∉ keys l) (a : α) :
    put l key a = l ++ [(key, a)] := by
  induction l with
  | nil => rfl
  | cons p r ih =>
    obtain ⟨k, b⟩ := p
    simp only [keys, List.map_cons, List.mem_cons, not_or] at h
    rw [put, if_neg (Ne.symm h.1), ih h.2]
    rfl

theorem keys_put (l : List (String × α)) (key : String) (a : α) :
    keys (put l key a) = if key ∈ keys l then keys l else keys l ++ [key] := by
  by_cases h : key ∈ keys l
  · rw [if_pos h]
    induction l with
    | nil => simp [keys] at h
    | cons p r ih =>
      obtain ⟨k, b⟩ := p
      by_cases hk : k = key
      · simp [put, keys, hk]
      · have hr : key ∈ keys r := by simpa [keys, Ne.symm hk] using h
        simpa [put, keys, hk] using ih hr
  · rw [if_neg h, put_of_not_mem h, keys, List.map_append]
    rfl

theorem put_of_get? {l : List (String × α)} {key : String} {a : α} (h : get? l key = some a) :
    put l key a = l := by
  induction l with
  | nil => simp [get?] at h
  | cons p r ih =>
    obtain ⟨k, b⟩ := p
    by_cases hk : k = key
    · simp_all [get?, put]
    · simp only [get?, if_neg hk] at h
      rw [put, if_neg hk, ih h]

theorem get?_put_self (l : List (String × α)) (key : String) (a : α) : get? (put l key a) key = some a := by
  induction l with
  | nil => simp [put, get?]
  | cons p r ih =>
    obtain ⟨k, b⟩ := p
    by_cases hk : k = key
    · simp [put, get?, hk]
    · simpa [put, get?, hk] using ih

theorem get?_put_of_ne (l : List (String × α)) {key other : String} (h : key ≠ other) (a : α) :
    get? (put l key a) other = get? l other := by
  induction l with
  | nil => simp [put, get?, h]
  | cons p r ih =>
    obtain ⟨k, b⟩ := p
    by_cases hk : k = key
    · simp [put, get?, hk, h]
    · simp [put, get?, hk, ih]

theorem get?_foldl_put_of_not_mem {acc l : List (String × α)} {key : String} (h : key ∉ keys l) :
    get? (l.foldl (fun acc p => put acc p.1 p.2) acc) key = get? acc key := by
  induction l generalizing acc with
  | nil => rfl
  | cons p r ih =>
    simp only [keys, List.map_cons, List.mem_cons, not_or] at h
    rw [List.foldl_cons, ih h.2, get?_put_of_ne acc (Ne.symm h.1)]

theorem get?_foldl_put_of_mem {acc l : List (String × α)} (hl : Distinct l) {p : String × α}
    (h : p ∈ l) : get? (l.foldl (fun acc p => put acc p.1 p.2) acc) p.1 = some p.2 := by
  induction l generalizing acc with
  | nil => simp at h
  | cons q r ih =>
    simp only [Distinct, keys, List.map_cons, List.nodup_cons] at hl
    rcases List.mem_cons.1 h with rfl | h
    · rw [List.foldl_cons, get?_foldl_put_of_not_mem hl.1, get?_put_self]
    · exact ih hl.2 h

theorem foldl_put_of_get? {acc l : List (String × α)} (h : ∀ p ∈ l, get? acc p.1 = some p.2) :
    l.foldl (fun acc p => put acc p.1 p.2) acc = acc := by
  induction l with
  | nil => rfl
  | cons p r ih =>
    obtain ⟨hp, hr⟩ := List.forall_mem_cons.1 h
    rw [List.foldl_cons, put_of_get? hp, ih hr]

theorem foldl_put_append {acc l : List (String × α)} (h : Distinct (acc ++ l)) :
    l.foldl (fun acc p => put acc p.1 p.2) acc = acc ++ l := by
  induction l generalizing acc with
  | nil => simp
  | cons p r ih =>
    have hnew : p.1 ∉ keys acc := by
      simp only [Distinct, keys, List.map_append, List.map_cons, List.nodup_append] at h
      exact fun hmem => h.2.2 p.1 hmem p.1 (by simp) rfl
    rw [List.foldl_cons, put_of_not_mem hnew, ih (by simpa using h), List.append_assoc]
    rfl

/-- Putting the entries of a list one after the other gives the list exactly if its keys are distinct. -/
theorem ofList_eq_self_iff (l : List (String × α)) : ofList l = l ↔ Distinct l :=
  ⟨fun h => h ▸ distinct_ofList l, fun h => @foldl_put_append α [] l h⟩

end SchemaGo.Keyed
