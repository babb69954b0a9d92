import SchemaGo.Type.OfNode

/-! Types and aliases. The type of a node depends on the index only through its aliases, the entries that
are neither structs nor enums. -/

namespace SchemaGo.TypeExpr

open Model (Index ModelNode)

/-- The alias with a key. -/
def alias? (x : Index) (key : String) : Option ModelNode :=
  (x.get? key).filter (·.kind = .other)

theorem within_succ (x : Index) (room : Nat) (opened : List String) (n : ModelNode) :
    within x (room + 1) opened n =
      ofNode (fun target =>
        if target ∈ opened then none
        else (alias? x target).map (within x room (target :: opened))) n := by
  unfold within
  congr 1
  funext target
  split
  · rfl
  · unfold alias?
    cases x.get? target with
    | none => rfl
    | some m => by_cases hkind : m.kind = .other <;> simp [hkind, Option.filter]

theorem within_congr {x y : Index} (h : ∀ key, alias? x key = alias? y key) (room : Nat)
    (opened : List String) (n : ModelNode) : within x room opened n = within y room opened n := by
  induction room generalizing opened n with
  | zero => rfl
  | succ room ih =>
    have hrest : ∀ opened, within x room opened = within y room opened := fun opened => funext (ih opened)
    simp only [within_succ, h, hrest]

/-- Two indexes of one size with the same aliases give a node the same type. -/
theorem of_congr {x y : Index} (hsize : x.size = y.size) (h : ∀ key, alias? x key = alias? y key)
    (n : ModelNode) : of x n = of y n := by
  rw [of, of, hsize]
  exact within_congr h y.size [] n

end SchemaGo.TypeExpr
