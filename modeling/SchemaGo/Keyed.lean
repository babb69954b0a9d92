/-! Association lists in the order of first insertion. Putting a key that is present replaces its
value in place, so the first position and the last value of a repeated key win. -/

namespace SchemaGo.Keyed

variable {α : Type}

def get? : List (String × α) → String → Option α
  | [], _ => none
  | (k, a) :: r, key => if k = key then some a else get? r key

def put : List (String × α) → String → α → List (String × α)
  | [], key, x => [(key, x)]
  | (k, a) :: r, key, x => if k = key then (k, x) :: r else (k, a) :: put r key x

def keys (l : List (String × α)) : List String :=
  l.map (·.1)

/-- Puts all entries of a list, in its order. -/
def ofList (l : List (String × α)) : List (String × α) :=
  l.foldl (fun acc p => put acc p.1 p.2) []

def Distinct (l : List (String × α)) : Prop :=
  (keys l).Nodup

theorem mem_keys_put {l : List (String × α)} {key k : String} {x : α} :
    k ∈ keys (put l key x) ↔ k = key ∨ k ∈ keys l := by
  induction l with
  | nil => simp [put, keys]
  | cons p r ih =>
    obtain ⟨q, a⟩ := p
    simp only [keys, List.map_cons, List.mem_cons] at ih ⊢
    by_cases h : q = key
    · simp [put, h]
    · simp only [put, h, if_false, List.map_cons, List.mem_cons, ih]
      constructor <;> rintro (h | h | h) <;> simp [h]

theorem Distinct.nil : Distinct ([] : List (String × α)) :=
  List.nodup_nil

theorem Distinct.put {l : List (String × α)} (h : Distinct l) (key : String) (x : α) :
    Distinct (Keyed.put l key x) := by
  induction l with
  | nil => simp [Distinct, keys, Keyed.put]
  | cons p r ih =>
    obtain ⟨q, a⟩ := p
    simp only [Distinct, keys, List.map_cons, List.nodup_cons] at h
    by_cases hq : q = key
    · simpa [Distinct, keys, Keyed.put, hq] using h
    · simp only [Distinct, Keyed.put, hq, if_false, keys, List.map_cons, List.nodup_cons]
      refine ⟨fun hm => ?_, ih h.2⟩
      rcases mem_keys_put.1 hm with hk | hk
      · exact hq hk
      · exact h.1 hk

theorem Distinct.foldl_put {l acc : List (String × α)} (h : Distinct acc) :
    Distinct (l.foldl (fun acc p => Keyed.put acc p.1 p.2) acc) := by
  induction l generalizing acc with
  | nil => exact h
  | cons p r ih => exact ih (h.put p.1 p.2)

theorem distinct_ofList (l : List (String × α)) : Distinct (ofList l) :=
  Distinct.nil.foldl_put

end SchemaGo.Keyed
