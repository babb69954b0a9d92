import SchemaGo.Render.Hook

/-! Chains of hooks in any monad. Two chains one behind the other are one chain, whose later stages are
counted on. A chain that is entered at another stage does the same and blames another stage. So a hook
that leaves the contents as they are can be taken out of the middle, and a last hook works on what the
chain before it has come to. -/

namespace SchemaGo.Render

variable {m : Type → Type} [Monad m] [LawfulMonad m]

/-! ### Other errors -/

section

variable {ε ε' ε'' α β : Type}

theorem adapt_pure (f : ε → ε') (a : α) :
    ExceptT.adapt f (pure a : ExceptT ε m α) = pure a := by
  change Except.mapError f <$> (pure (.ok a) : m (Except ε α)) = pure (.ok a)
  rw [map_pure]
  rfl

theorem adapt_throw (f : ε → ε') (e : ε) :
    ExceptT.adapt f (throw e : ExceptT ε m α) = throw (f e) := by
  change Except.mapError f <$> (pure (.error e) : m (Except ε α)) = pure (.error (f e))
  rw [map_pure]
  rfl

theorem adapt_bind (f : ε → ε') (x : ExceptT ε m α) (g : α → ExceptT ε m β) :
    ExceptT.adapt f (x >>= g) = ExceptT.adapt f x >>= fun a => ExceptT.adapt f (g a) := by
  refine ExceptT.ext ?_
  rw [ExceptT.run_adapt, ExceptT.run_bind, ExceptT.run_bind, ExceptT.run_adapt, map_bind,
    bind_map_left]
  refine bind_congr fun result => ?_
  cases result with
  | ok a => exact (ExceptT.run_adapt f (g a)).symm
  | error e => exact map_pure (Except.mapError f) (.error e)

theorem adapt_adapt (f : ε' → ε'') (g : ε → ε') (x : ExceptT ε m α) :
    ExceptT.adapt f (ExceptT.adapt g x) = ExceptT.adapt (fun e => f (g e)) x := by
  refine ExceptT.ext ?_
  rw [ExceptT.run_adapt, ExceptT.run_adapt, ExceptT.run_adapt, ← comp_map]
  refine map_congr fun result => ?_
  cases result <;> rfl

/-- A computation keeps its errors if they are kept one by one. -/
theorem adapt_liftExcept {f : ε → ε} {x : Except ε α} (h : ∀ e, x = .error e → f e = e) :
    ExceptT.adapt f (liftExcept x : ExceptT ε m α) = liftExcept x := by
  cases x with
  | ok a => exact adapt_pure f a
  | error e => exact (adapt_throw f e).trans (congrArg throw (h e rfl))

theorem adapt_mapM (f : ε → ε') (g : β → ExceptT ε m α) (l : List β) :
    ExceptT.adapt f (l.mapM g) = l.mapM fun b => ExceptT.adapt f (g b) := by
  induction l with
  | nil => simpa using adapt_pure f []
  | cons b l ih => simp only [List.mapM_cons, adapt_bind, adapt_pure, ih]

end

/-! ### Chains -/

/-- Two chains one behind the other. -/
theorem runFrom_append (stage : Nat) (hooks later : List (Option (Hook m))) (content : String) :
    runFrom stage (hooks ++ later) content =
      runFrom stage hooks content >>= runFrom (stage + hooks.length) later := by
  induction hooks generalizing stage content with
  | nil => simp [runFrom]
  | cons hook hooks ih =>
    have hstage : stage + 1 + hooks.length = stage + (hook :: hooks).length := by simp; omega
    cases hook with
    | none => simp only [List.cons_append, runFrom, ih, hstage]
    | some hook => simp only [List.cons_append, runFrom, ih, hstage, bind_assoc]

/-- A chain that is entered at another stage. -/
theorem adapt_runFrom {f : Nat → Nat} {stage stage' : Nat} {hooks : List (Option (Hook m))}
    (h : ∀ i < hooks.length, f (stage + i) = stage' + i) (content : String) :
    ExceptT.adapt (fun e => (f e.1, e.2)) (runFrom stage hooks content) =
      runFrom stage' hooks content := by
  induction hooks generalizing stage stage' content with
  | nil => exact adapt_pure _ content
  | cons hook hooks ih =>
    have hfirst : f stage = stage' := h 0 (by simp)
    have hrest : ∀ i < hooks.length, f (stage + 1 + i) = stage' + 1 + i := by
      intro i hi
      have := h (i + 1) (by simpa using hi)
      rwa [Nat.add_right_comm, Nat.add_right_comm stage']
    cases hook with
    | none => exact ih hrest content
    | some hook => simp only [runFrom, adapt_bind, adapt_adapt, hfirst, ih hrest]

/-- The number that a stage gets when another one is put in at `first`. -/
def stageAfter (first stage : Nat) : Nat :=
  if first ≤ stage then stage + 1 else stage

/-- A hook that leaves contents as they are changes no more than the numbers of the stages behind it. -/
theorem runFrom_insert {hook : Option (Hook m)} (h : ∀ k ∈ hook, ∀ content, k content = pure content)
    (hooks later : List (Option (Hook m))) (content : String) :
    runFrom 0 (hooks ++ hook :: later) content =
      ExceptT.adapt (fun e => (stageAfter hooks.length e.1, e.2)) (runFrom 0 (hooks ++ later) content) := by
  have hskip : ∀ stage content,
      runFrom stage (hook :: later) content = runFrom (stage + 1) later content := by
    intro stage content
    cases hook with
    | none => rfl
    | some k => simp only [runFrom, h k rfl, adapt_pure, pure_bind]
  have hbefore : ∀ i < hooks.length, stageAfter hooks.length (0 + i) = 0 + i := by
    intro i hi
    rw [stageAfter, if_neg (by omega)]
  have hbehind : ∀ i < later.length, stageAfter hooks.length (0 + hooks.length + i) =
      0 + hooks.length + 1 + i := by
    intro i _
    rw [stageAfter, if_pos (by omega)]
    omega
  rw [runFrom_append, runFrom_append, adapt_bind, adapt_runFrom hbefore]
  refine bind_congr fun content => ?_
  rw [hskip, adapt_runFrom hbehind]

/-! ### Stages -/

namespace RenderError

/-- The error as it is when another stage is put in at `first`. -/
def after (first : Nat) : RenderError → RenderError
  | .hookFailure model hook stage source => .hookFailure model hook (stageAfter first stage) source
  | e => e

/-- The error as it is when `count` stages are put in front. -/
def behind (count : Nat) : RenderError → RenderError
  | .hookFailure model hook stage source => .hookFailure model hook (count + stage) source
  | e => e

end RenderError

section

variable {P : Type} (hook : HookName) (model : String) (select : P → Option (Hook m))

omit [LawfulMonad m] in
/-- Runs the hook that `select` finds in each of the presets, of which the first is stage 0. -/
def runStages (presets : List P) (seed : String) : ExceptT RenderError m String :=
  ExceptT.adapt (fun (stage, source) => .hookFailure model hook stage source)
    (runFrom 0 (presets.map select) seed)

theorem runStages_append (presets later : List P) (seed : String) :
    runStages hook model select (presets ++ later) seed =
      runStages hook model select presets seed >>= fun content =>
        ExceptT.adapt (RenderError.behind presets.length) (runStages hook model select later content) := by
  unfold runStages
  rw [List.map_append, runFrom_append, adapt_bind, List.length_map]
  refine bind_congr fun content => ?_
  have hstages : ∀ i < (later.map select).length, presets.length + (0 + i) = 0 + presets.length + i := by
    intro i _
    omega
  rw [← adapt_runFrom hstages content, adapt_adapt, adapt_adapt]
  rfl

theorem runStages_cons (p : P) (later : List P) (seed : String) :
    runStages hook model select (p :: later) seed =
      runStages hook model select [p] seed >>= fun content =>
        ExceptT.adapt (RenderError.behind 1) (runStages hook model select later content) :=
  runStages_append hook model select [p] later seed

theorem runStages_singleton (p : P) (seed : String) :
    runStages hook model select [p] seed =
      match select p with
      | none => pure seed
      | some k => ExceptT.adapt (.hookFailure model hook 0 ·) (k seed) := by
  unfold runStages
  rw [List.map_singleton]
  cases select p with
  | none => exact adapt_pure _ seed
  | some k => simp only [runFrom, bind_pure, adapt_adapt]

/-- A preset whose hook leaves contents as they are changes no more than the numbers of the stages behind
it. -/
theorem runStages_insert {p : P} (h : ∀ k ∈ select p, ∀ content, k content = pure content)
    (before later : List P) (seed : String) :
    runStages hook model select (before ++ p :: later) seed =
      ExceptT.adapt (RenderError.after before.length)
        (runStages hook model select (before ++ later) seed) := by
  have hinsert := runFrom_insert h (before.map select) (later.map select) seed
  rw [List.length_map] at hinsert
  unfold runStages
  rw [List.map_append, List.map_cons, List.map_append, hinsert, adapt_adapt, adapt_adapt]
  rfl

end

/-! ### Stacks -/

namespace Stack

variable {P : Type} (hook : HookName) (model : String) (select : P → Option (Hook m))

omit [LawfulMonad m] in
theorem run_eq (s : Stack P) : s.run hook model select = runStages hook model select s.stages :=
  rfl

theorem run_insert {p : P} (h : ∀ k ∈ select p, ∀ content, k content = pure content) (default : P)
    (callers later : List P) (seed : String) :
    (⟨default, callers ++ p :: later⟩ : Stack P).run hook model select seed =
      ExceptT.adapt (RenderError.after (callers.length + 1))
        ((⟨default, callers ++ later⟩ : Stack P).run hook model select seed) :=
  runStages_insert hook model select h (default :: callers) later seed

theorem stages_push (s : Stack P) (p : P) : (s.push p).stages = s.stages ++ [p] := by
  simp [push, stages]

/-- The hook of a last preset works on what the stack below it has come to. -/
theorem run_push (s : Stack P) (p : P) (seed : String) :
    (s.push p).run hook model select seed =
      s.run hook model select seed >>= fun content =>
        match select p with
        | none => pure content
        | some k => ExceptT.adapt (.hookFailure model hook s.size ·) (k content) := by
  rw [run_eq, run_eq, stages_push, runStages_append]
  refine bind_congr fun content => ?_
  rw [runStages_singleton]
  cases select p with
  | none => exact adapt_pure _ content
  | some k => exact adapt_adapt _ _ (k content)

end Stack

end SchemaGo.Render
