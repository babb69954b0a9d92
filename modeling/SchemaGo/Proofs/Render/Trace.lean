import SchemaGo.Render.Hook

/-! Renderings that keep account of their hooks. A hook is replaced by one that also writes down where it
was invoked, at which stage, and what it received and returned. A triple says of a computation and its
copy that keeps account that they go through planned invocations, each on what the log before it says,
up to the first one that fails. Triples compose along binds and over lists, as the plans do. -/

namespace SchemaGo.Render

/-- One invocation of a hook. -/
structure Call (S : Type) where
  site : S
  stage : Nat
  received : String
  returned : Except String String

namespace Call

variable {S : Type}

def slot (c : Call S) : S × Nat :=
  (c.site, c.stage)

def Fails (c : Call S) : Prop :=
  ∃ source, c.returned = .error source

end Call

/-- The hook that writes its invocations down. -/
def Hook.logged {S W : Type} (site : S) (stage : Nat) (hook : Hook (StateM W)) :
    Hook (StateM (W × List (Call S))) := fun received =>
  ExceptT.mk fun (w, log) =>
    let (returned, w) := (hook received).run.run w
    (returned, w, log ++ [⟨site, stage, received, returned⟩])

section

variable {S : Type} [DecidableEq S]

/-- The text that the invocations at a site have come to, if there are any. -/
def lastText? (log : List (Call S)) (site : S) : Option String :=
  (log.filterMap fun c => if c.site = site then c.returned.toOption else none).getLast?

/-- What the next invocation at a site receives: the text of the one before, or the seed. -/
def content (seed : List (Call S) → S → String) (log : List (Call S)) (site : S) : String :=
  (lastText? log site).getD (seed log site)

theorem lastText?_call (log : List (Call S)) {c : Call S} {text : String} (h : c.returned = .ok text) :
    lastText? (log ++ [c]) c.site = some text := by
  simp [lastText?, h, Except.toOption]

theorem lastText?_elsewhere (log : List (Call S)) {c : Call S} {site : S} (h : site ≠ c.site) :
    lastText? (log ++ [c]) site = lastText? log site := by
  simp [lastText?, h.symm]

end

/-! ### Runs through a plan -/

section

variable {S : Type} {input : List (Call S) → S → String}

/-- The invocations of a plan behind a log, up to the first one that fails. -/
inductive Runs (input : List (Call S) → S → String) :
    List (Call S) → List (S × Nat) → List (Call S) → Option ((S × Nat) × String) → Prop
  | done (log : List (Call S)) : Runs input log [] [] none
  | fail {log : List (Call S)} {c : Call S} {source : String} (plan : List (S × Nat))
      (received : c.received = input log c.site) (returned : c.returned = .error source) :
      Runs input log (c.slot :: plan) [c] (some (c.slot, source))
  | call {log calls : List (Call S)} {c : Call S} {text : String} {plan : List (S × Nat)}
      {failed : Option ((S × Nat) × String)} (received : c.received = input log c.site)
      (returned : c.returned = .ok text) (rest : Runs input (log ++ [c]) plan calls failed) :
      Runs input log (c.slot :: plan) (c :: calls) failed

namespace Runs

variable {log calls calls' : List (Call S)} {plan : List (S × Nat)}
  {failed : Option ((S × Nat) × String)} {slot : S × Nat} {source : String}

theorem append (h : Runs input log plan calls none) {plan' : List (S × Nat)}
    (h' : Runs input (log ++ calls) plan' calls' failed) :
    Runs input log (plan ++ plan') (calls ++ calls') failed := by
  generalize hnone : none = ended at h
  induction h with
  | done log => simpa using h'
  | fail plan received returned => cases hnone
  | call received returned rest ih => exact .call received returned (ih (by simpa using h') hnone)

theorem append_failed (h : Runs input log plan calls (some (slot, source))) (plan' : List (S × Nat)) :
    Runs input log (plan ++ plan') calls (some (slot, source)) := by
  generalize hfailed : some (slot, source) = ended at h
  induction h with
  | done log => cases hfailed
  | fail plan received returned =>
    cases hfailed
    exact .fail (plan ++ plan') received returned
  | call received returned rest ih => exact .call received returned (ih hfailed)

theorem isPrefix (h : Runs input log plan calls failed) : calls.map Call.slot <+: plan := by
  induction h with
  | done log => exact List.nil_prefix
  | fail plan received returned => simp
  | call received returned rest ih => simpa using ih

theorem slot_mem (h : Runs input log plan calls (some (slot, source))) : slot ∈ plan := by
  generalize hfailed : some (slot, source) = ended at h
  induction h with
  | done log => cases hfailed
  | fail plan received returned =>
    cases hfailed
    exact List.mem_cons_self
  | call received returned rest ih => exact List.mem_cons_of_mem _ (ih hfailed)

theorem received_eq (h : Runs input log plan calls failed) {before after : List (Call S)} {c : Call S}
    (hc : calls = before ++ c :: after) : c.received = input (log ++ before) c.site := by
  induction h generalizing before with
  | done log => simp at hc
  | fail plan received returned =>
    obtain ⟨rfl, rfl, rfl⟩ | ⟨_, rfl, hnil⟩ := List.cons_eq_append_iff.1 hc
    · simpa using received
    · simp at hnil
  | call received returned rest ih =>
    obtain ⟨rfl, hcons⟩ | ⟨before, rfl, hrest⟩ := List.cons_eq_append_iff.1 hc
    · cases hcons
      simpa using received
    · simpa using ih hrest

/-- A run that nothing ended has gone through the whole plan, and no invocation failed. -/
theorem completed (h : Runs input log plan calls none) :
    calls.map Call.slot = plan ∧ ∀ c ∈ calls, ¬ c.Fails := by
  generalize hnone : none = ended at h
  induction h with
  | done log => simp
  | fail plan received returned => cases hnone
  | call received returned rest ih =>
    obtain ⟨hslots, hcalls⟩ := ih hnone
    refine ⟨by simp [hslots], List.forall_mem_cons.2 ⟨?_, hcalls⟩⟩
    rintro ⟨source, hsource⟩
    simp [returned] at hsource

/-- A run is ended by its last invocation, and no other one failed. -/
theorem stopped (h : Runs input log plan calls (some (slot, source))) :
    ∃ before c, calls = before ++ [c] ∧ c.slot = slot ∧ c.returned = .error source ∧
      ∀ b ∈ before, ¬ b.Fails := by
  generalize hfailed : some (slot, source) = ended at h
  induction h with
  | done log => cases hfailed
  | @fail _ c _ plan received returned =>
    cases hfailed
    exact ⟨[], c, rfl, rfl, returned, by simp⟩
  | @call _ _ d _ _ _ received returned rest ih =>
    obtain ⟨before, c, rfl, hslot, hreturned, hbefore⟩ := ih hfailed
    refine ⟨d :: before, c, rfl, hslot, hreturned, List.forall_mem_cons.2 ⟨?_, hbefore⟩⟩
    rintro ⟨source, hsource⟩
    simp [returned] at hsource

end Runs

end

/-! ### Computations that keep account -/

section

variable {S W ε α β : Type}

/-- From a state and behind a log, a computation and its copy that keeps account have one result and end
in one state, and the copy has written down some calls. -/
structure Traces (p : ExceptT ε (StateM W) α) (q : ExceptT ε (StateM (W × List (Call S))) α) (w : W)
    (log : List (Call S)) (result : Except ε α) (w' : W) (calls : List (Call S)) : Prop where
  plain : p.run.run w = (result, w')
  logged : q.run.run (w, log) = (result, w', log ++ calls)

namespace Traces

variable {p : ExceptT ε (StateM W) α} {q : ExceptT ε (StateM (W × List (Call S))) α} {w w₁ w₂ : W}
  {log calls calls' : List (Call S)}

theorem pure (a : α) (w : W) (log : List (Call S)) :
    Traces (pure a : ExceptT ε (StateM W) α) (pure a) w log (.ok a) w [] :=
  ⟨rfl, congrArg (fun log => (Except.ok a, w, log)) (List.append_nil log).symm⟩

theorem throw (e : ε) (w : W) (log : List (Call S)) :
    Traces (throw e : ExceptT ε (StateM W) α) (throw e) w log (.error e) w [] :=
  ⟨rfl, congrArg (fun log => (Except.error e, w, log)) (List.append_nil log).symm⟩

theorem bind {f : α → ExceptT ε (StateM W) β} {g : α → ExceptT ε (StateM (W × List (Call S))) β} {a : α}
    {result : Except ε β} (h : Traces p q w log (.ok a) w₁ calls)
    (h' : Traces (f a) (g a) w₁ (log ++ calls) result w₂ calls') :
    Traces (p >>= f) (q >>= g) w log result w₂ (calls ++ calls') := by
  constructor
  · rw [ExceptT.run_bind, StateT.run_bind, h.plain]
    exact h'.plain
  · rw [ExceptT.run_bind, StateT.run_bind, h.logged, ← List.append_assoc]
    exact h'.logged

theorem bind_error (f : α → ExceptT ε (StateM W) β) (g : α → ExceptT ε (StateM (W × List (Call S))) β)
    {e : ε} (h : Traces p q w log (.error e) w₁ calls) :
    Traces (p >>= f) (q >>= g) w log (.error e) w₁ calls := by
  constructor
  · rw [ExceptT.run_bind, StateT.run_bind, h.plain]
    rfl
  · rw [ExceptT.run_bind, StateT.run_bind, h.logged]
    rfl

theorem adapt {ε' : Type} (f : ε → ε') {result : Except ε α} (h : Traces p q w log result w₁ calls) :
    Traces (ExceptT.adapt f p) (ExceptT.adapt f q) w log (result.mapError f) w₁ calls := by
  constructor
  · rw [ExceptT.run_adapt, StateT.run_map, h.plain]
    rfl
  · rw [ExceptT.run_adapt, StateT.run_map, h.logged]
    rfl

end Traces

end

/-! ### Triples -/

section

variable {S W ε α β : Type} {input : List (Call S) → S → String} {fail : S × Nat → String → ε}

/-- Behind a log, a computation goes through a plan. It fails as the invocation does that ends it, and
otherwise it has a result of which `post` holds, together with the log by then. -/
def Steps (input : List (Call S) → S → String) (fail : S × Nat → String → ε) (plan : List (S × Nat))
    (log : List (Call S)) (p : ExceptT ε (StateM W) α) (q : ExceptT ε (StateM (W × List (Call S))) α)
    (post : List (Call S) → α → Prop) : Prop :=
  ∀ w, ∃ result w' calls failed, Traces p q w log result w' calls ∧ Runs input log plan calls failed ∧
    match failed with
    | none => ∃ a, result = .ok a ∧ post (log ++ calls) a
    | some (slot, source) => result = .error (fail slot source)

namespace Steps

variable {plan plan' : List (S × Nat)} {log : List (Call S)} {p : ExceptT ε (StateM W) α}
  {q : ExceptT ε (StateM (W × List (Call S))) α} {post : List (Call S) → α → Prop}

theorem pure {a : α} (h : post log a) :
    Steps input fail [] log (pure a : ExceptT ε (StateM W) α) (pure a) post := fun w =>
  ⟨.ok a, w, [], none, .pure a w log, .done log, a, rfl, by simpa using h⟩

theorem mono {post' : List (Call S) → α → Prop} (h : Steps input fail plan log p q post)
    (hpost : ∀ log a, post log a → post' log a) : Steps input fail plan log p q post' := by
  intro w
  obtain ⟨result, w', calls, failed, htraces, hruns, hresult⟩ := h w
  refine ⟨result, w', calls, failed, htraces, hruns, ?_⟩
  cases failed with
  | none =>
    obtain ⟨a, ha, hlog⟩ := hresult
    exact ⟨a, ha, hpost _ a hlog⟩
  | some f => exact hresult

theorem bind {f : α → ExceptT ε (StateM W) β} {g : α → ExceptT ε (StateM (W × List (Call S))) β}
    {post' : List (Call S) → β → Prop} (hp : Steps input fail plan log p q post)
    (hf : ∀ log a, post log a → Steps input fail plan' log (f a) (g a) post') :
    Steps input fail (plan ++ plan') log (p >>= f) (q >>= g) post' := by
  intro w
  obtain ⟨result, w₁, calls, failed, htraces, hruns, hresult⟩ := hp w
  cases failed with
  | some ended =>
    obtain ⟨slot, source⟩ := ended
    subst hresult
    exact ⟨_, w₁, calls, _, htraces.bind_error f g, hruns.append_failed plan', rfl⟩
  | none =>
    obtain ⟨a, rfl, hpost⟩ := hresult
    obtain ⟨result, w₂, calls', failed, htraces', hruns', hresult⟩ := hf _ a hpost w₁
    refine ⟨result, w₂, calls ++ calls', failed, htraces.bind htraces', hruns.append hruns', ?_⟩
    rwa [← List.append_assoc]

theorem adapt {ε' : Type} {fail' : S × Nat → String → ε'} (f : ε → ε')
    (hfail : ∀ slot ∈ plan, ∀ source, f (fail slot source) = fail' slot source)
    (h : Steps input fail plan log p q post) :
    Steps input fail' plan log (ExceptT.adapt f p) (ExceptT.adapt f q) post := by
  intro w
  obtain ⟨result, w', calls, failed, htraces, hruns, hresult⟩ := h w
  refine ⟨_, w', calls, failed, htraces.adapt f, hruns, ?_⟩
  cases failed with
  | none =>
    obtain ⟨a, rfl, hpost⟩ := hresult
    exact ⟨a, rfl, hpost⟩
  | some ended =>
    obtain ⟨slot, source⟩ := ended
    subst hresult
    exact congrArg Except.error (hfail slot hruns.slot_mem source)

/-- A hook is one step. -/
theorem hook {log : List (Call S)} {site : S} {received : String} (h : received = input log site)
    (stage : Nat) (hook : Hook (StateM W)) :
    Steps input (fun slot source => (slot.2, source)) [(site, stage)] log
      (ExceptT.adapt (stage, ·) (hook received))
      (ExceptT.adapt (stage, ·) (Hook.logged site stage hook received))
      fun log' text => ∃ c : Call S, c.site = site ∧ c.returned = .ok text ∧ log' = log ++ [c] := by
  intro w
  obtain ⟨returned, w', hrun⟩ : ∃ returned w', (hook received).run.run w = (returned, w') := ⟨_, _, rfl⟩
  have htraces : Traces (hook received) (Hook.logged site stage hook received) w log returned w'
      [⟨site, stage, received, returned⟩] := by
    refine ⟨hrun, ?_⟩
    change (let (returned, w) := (hook received).run.run w
      (returned, w, log ++ [(⟨site, stage, received, returned⟩ : Call S)])) = _
    rw [hrun]
  cases returned with
  | ok text =>
    have hruns := Runs.call (c := ⟨site, stage, received, .ok text⟩) h rfl (.done _)
    exact ⟨_, w', _, none, htraces.adapt _, hruns, text, rfl, _, rfl, rfl, rfl⟩
  | error source =>
    have hruns := Runs.fail (c := ⟨site, stage, received, .error source⟩) [] h rfl
    exact ⟨_, w', _, some ((site, stage), source), htraces.adapt _, hruns, rfl⟩

end Steps

/-! ### Chains of stages -/

variable [DecidableEq S] {seed : List (Call S) → S → String}

/-- From one log to another, the content of a site has come to a text, and those of the other sites
are as they were. -/
structure Reaches (seed : List (Call S) → S → String) (site : S) (log log' : List (Call S))
    (text : String) : Prop where
  content_eq : content seed log' site = text
  elsewhere : ∀ other, other ≠ site → lastText? log' other = lastText? log other

/-- The stages of a list of hooks that have one. -/
def stagesFrom (stage : Nat) (hooks : List (Option (Hook (StateM W)))) : List Nat :=
  ((hooks.zipIdx stage).filter (·.1.isSome)).map (·.2)

def loggedFrom (site : S) (stage : Nat) (hooks : List (Option (Hook (StateM W)))) :
    List (Option (Hook (StateM (W × List (Call S))))) :=
  (hooks.zipIdx stage).map fun (hook, stage) => hook.map (Hook.logged site stage)

namespace Steps

/-- The stages of a site are invoked in order, the first one on the content of the site. -/
theorem runFrom {site : S} (stage : Nat) (hooks : List (Option (Hook (StateM W)))) {log : List (Call S)}
    {text : String} (h : content seed log site = text) :
    Steps (content seed) (fun slot source => (slot.2, source)) ((stagesFrom stage hooks).map (site, ·)) log
      (Render.runFrom stage hooks text) (Render.runFrom stage (loggedFrom site stage hooks) text)
      (Reaches seed site log) := by
  induction hooks generalizing stage log text with
  | nil => exact .pure ⟨h, fun _ _ => rfl⟩
  | cons first rest ih =>
    cases first with
    | none => exact ih (stage + 1) h
    | some hook =>
      change Steps _ _ ([(site, stage)] ++ (stagesFrom (stage + 1) rest).map (site, ·)) _ _ _ _
      refine bind (.hook h.symm stage hook) ?_
      rintro _ text ⟨c, rfl, hreturned, rfl⟩
      have hcontent : content seed (log ++ [c]) c.site = text := by
        rw [content, lastText?_call log hreturned, Option.getD_some]
      refine mono (ih (stage + 1) hcontent) fun log' text' hreaches => ⟨hreaches.content_eq, ?_⟩
      intro other hother
      rw [hreaches.elsewhere other hother, lastText?_elsewhere log hother]

/-- A list of sites is worked off in order, and then every site has its own text. -/
theorem mapM {ι : Type} {site : ι → S} {stages : ι → List Nat} {f : ι → ExceptT ε (StateM W) String}
    {g : ι → ExceptT ε (StateM (W × List (Call S))) String} {l : List ι}
    (distinct : (l.map site).Nodup) (unseeded : ∀ i ∈ l, ∀ log, seed log (site i) = "")
    (hstep : ∀ i ∈ l, ∀ log, lastText? log (site i) = none →
      Steps (content seed) fail ((stages i).map (site i, ·)) log (f i) (g i) (Reaches seed (site i) log))
    {log : List (Call S)} (fresh : ∀ i ∈ l, lastText? log (site i) = none) :
    Steps (content seed) fail (l.flatMap fun i => (stages i).map (site i, ·)) log (l.mapM f) (l.mapM g)
      fun log' texts => texts = l.map (fun i => content seed log' (site i)) ∧
        ∀ other, other ∉ l.map site → lastText? log' other = lastText? log other := by
  induction l generalizing log with
  | nil => exact .pure ⟨rfl, fun _ _ => rfl⟩
  | cons i l ih =>
    rw [List.map_cons, List.nodup_cons] at distinct
    rw [List.forall_mem_cons] at unseeded hstep fresh
    rw [List.mapM_cons, List.mapM_cons, List.flatMap_cons]
    refine bind (hstep.1 log fresh.1) fun log₁ text hfirst => ?_
    -- The sites are distinct, so the first one leaves the others fresh and they leave its text alone.
    have hfresh : ∀ j ∈ l, lastText? log₁ (site j) = none := by
      intro j hj
      have hne : site j ≠ site i := fun h => distinct.1 (h ▸ List.mem_map_of_mem hj)
      rw [hfirst.elsewhere _ hne, fresh.2 j hj]
    rw [← List.append_nil (l.flatMap _)]
    refine bind (ih distinct.2 unseeded.2 hstep.2 hfresh) fun log₂ texts hrest => .pure ?_
    obtain ⟨rfl, helsewhere⟩ := hrest
    constructor
    · have htext : content seed log₂ (site i) = text := by
        rw [← hfirst.content_eq, content, content, helsewhere _ distinct.1, unseeded.1, unseeded.1]
      rw [List.map_cons, htext]
    · intro other hother
      rw [List.map_cons, List.mem_cons, not_or] at hother
      rw [helsewhere other hother.2, hfirst.elsewhere other hother.1]

end Steps

end

end SchemaGo.Render
