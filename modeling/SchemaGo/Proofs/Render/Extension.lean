import SchemaGo.Proofs.Render.Chain

/-! Stacks that are extended. To run a hook through a stack and further presets is to run it through the
stack and then through the presets, whose stages are counted on behind those of the stack. If the stack
fails, so does the whole, and nothing else is done. A preset without the hook, wherever it stands, only
moves the numbers of the stages behind it. The hooks are any, with effects of any kind. -/

namespace SchemaGo.Render

theorem RenderError.behind_behind (count first : Nat) (e : RenderError) :
    (e.behind first).behind count = e.behind (count + first) := by
  cases e with
  | hookFailure model hook stage source => simp [behind, Nat.add_assoc]
  | _ => rfl

namespace Stack

variable {P : Type}

/-- The stack with further presets on top, put there one by one. -/
def extend (s : Stack P) (later : List P) : Stack P :=
  later.foldl push s

theorem stages_extend (s : Stack P) (later : List P) : (s.extend later).stages = s.stages ++ later := by
  induction later generalizing s with
  | nil => simp [extend]
  | cons p later ih =>
    calc (s.extend (p :: later)).stages = ((s.push p).extend later).stages := rfl
      _ = s.stages ++ [p] ++ later := by rw [ih, stages_push]
      _ = s.stages ++ p :: later := by rw [List.append_assoc, List.singleton_append]

theorem size_extend (s : Stack P) (later : List P) : (s.extend later).size = s.size + later.length := by
  rw [size, stages_extend, List.length_append, size]

variable {m : Type → Type} [Monad m]

/-- The laws of a hook that runs through a stack `s` and further presets `later`. -/
structure Composes (s : Stack P) (later : List P) (hook : HookName) (model : String)
    (select : P → Option (Hook m)) : Prop where
  counted : (s.extend later).size = s.size + later.length
  composed : ∀ seed, (s.extend later).run hook model select seed =
    s.run hook model select seed >>= fun content =>
      ExceptT.adapt (RenderError.behind s.size) (runStages hook model select later content)
  /-- Behind a failure of the stack there is no effect. -/
  stopped : ∀ seed, ((s.extend later).run hook model select seed).run =
    (s.run hook model select seed).run >>= fun
      | .error e => pure (.error e)
      | .ok content =>
        (ExceptT.adapt (RenderError.behind s.size) (runStages hook model select later content)).run
  /-- A preset that has the hook fails with its own place, counted from the stages of the stack. -/
  placed : ∀ before p behind, later = before ++ p :: behind → ∀ k, select p = some k → ∀ seed,
    (s.extend later).run hook model select seed = do
      let content ← (s.extend before).run hook model select seed
      let content ← ExceptT.adapt (.hookFailure model hook (s.size + before.length) ·) (k content)
      ExceptT.adapt (RenderError.behind (s.size + before.length + 1))
        (runStages hook model select behind content)
  /-- A preset that lacks it counts as a stage, and that is all. -/
  skipped : ∀ before p behind, (s.extend later).stages = before ++ p :: behind → select p = none →
    ∀ seed, (s.extend later).run hook model select seed =
      ExceptT.adapt (RenderError.after before.length)
        (runStages hook model select (before ++ behind) seed)

variable [LawfulMonad m] (hook : HookName) (model : String) (select : P → Option (Hook m))

theorem run_extend (s : Stack P) (later : List P) (seed : String) :
    (s.extend later).run hook model select seed =
      s.run hook model select seed >>= fun content =>
        ExceptT.adapt (RenderError.behind s.size) (runStages hook model select later content) := by
  rw [run_eq, stages_extend, runStages_append]
  rfl

/-- The hook of a preset on top of a stack and below others. -/
theorem run_extend_placed (s : Stack P) (before : List P) {p : P} (behind : List P) {k : Hook m}
    (h : select p = some k) (seed : String) :
    (s.extend (before ++ p :: behind)).run hook model select seed = (do
      let content ← (s.extend before).run hook model select seed
      let content ← ExceptT.adapt (.hookFailure model hook (s.size + before.length) ·) (k content)
      ExceptT.adapt (RenderError.behind (s.size + before.length + 1))
        (runStages hook model select behind content)) := by
  have hstack : s.extend (before ++ p :: behind) = (s.extend before).extend (p :: behind) :=
    List.foldl_append
  rw [hstack, run_extend, size_extend]
  refine bind_congr fun content => ?_
  rw [runStages_cons, adapt_bind, runStages_singleton, h]
  simp only [adapt_adapt, RenderError.behind_behind]
  rfl

/-- A hook runs through an extended stack as through the stack and then through what extends it. -/
theorem run_homomorphism (s : Stack P) (later : List P) : s.Composes later hook model select where
  counted := size_extend s later
  composed := run_extend hook model select s later
  stopped seed := by
    rw [run_extend, ExceptT.run_bind]
    refine bind_congr fun result => ?_
    cases result <;> rfl
  placed before p behind hlater k hk seed := by
    rw [hlater]
    exact run_extend_placed hook model select s before behind hk seed
  skipped before p behind hstages hnone seed := by
    rw [run_eq, hstages]
    exact runStages_insert hook model select (by simp [hnone]) before behind seed

/-- A hook that counts its invocations and adds a text. -/
def counting (text : String) : Hook (StateM Nat) := fun content => do
  ExceptT.lift (modify (· + 1))
  return content ++ text

/-- A hook that counts its invocations and fails. -/
def refusing (source : String) : Hook (StateM Nat) := fun _ => do
  ExceptT.lift (modify (· + 1))
  throw source

/-- Behind two stages, of which the first has the hook, the second of three presets fails: it is stage 3,
and the hook of the third is not invoked. -/
theorem run_homomorphism_counting :
    LawfulMonad (StateM Nat) ∧
      (((⟨some (counting "a"), [none]⟩ : Stack (Option (Hook (StateM Nat)))).extend
        [none, some (refusing "no"), some (counting "b")]).run .self "Pet" id "").run.run 0 =
          (.error (.hookFailure "Pet" .self 3 "no"), 2) := by
  refine ⟨inferInstance, ?_⟩
  have hlaws := run_homomorphism .self "Pet" id ⟨some (counting "a"), [none]⟩
    [none, some (refusing "no"), some (counting "b")]
  rw [hlaws.placed [none] (some (refusing "no")) [some (counting "b")] rfl (refusing "no") rfl ""]
  rfl

end Stack

end SchemaGo.Render
