import SchemaGo.Proofs.Render.EnumText

/-! Constants that presets drop. An item hook can keep the line that it receives or drop it by returning
nothing. The block of an enum then has the lines that are kept, in the order of the values. Which of them
states the type is settled before any is dropped, by the position of its value among all values. So if the
first value is dropped, the first constant of the block does not state the type, unless all of them do or
its value is null. -/

namespace SchemaGo

namespace Render

open Json (Value)
open Model (ModelNode)

theorem runFrom_none {m : Type → Type} [Monad m] (stage : Nat) {hooks : List (Option (Hook m))}
    (h : ∀ k ∈ hooks, k = none) (content : String) : runFrom stage hooks content = pure content := by
  induction hooks generalizing stage with
  | nil => rfl
  | cons first rest ih =>
    obtain ⟨rfl, hrest⟩ := List.forall_mem_cons.1 h
    exact ih (stage + 1) hrest

section

variable {S W ε α β : Type}

/-! ### Results told by invocations -/

/-- From every state a computation yields what its invocations tell, and they are at some sites. -/
def Yields (sites : S → Prop) (p : ExceptT ε (StateM W) α)
    (q : ExceptT ε (StateM (W × List (Call S))) α) (value : List (Call S) → α) : Prop :=
  ∀ w log, ∃ w' calls, Traces p q w log (.ok (value calls)) w' calls ∧ ∀ c ∈ calls, sites c.site

namespace Yields

variable {sites sites' : S → Prop} {p : ExceptT ε (StateM W) α}
  {q : ExceptT ε (StateM (W × List (Call S))) α} {value : List (Call S) → α}

theorem pure {a : α} (h : value [] = a) : Yields sites (pure a : ExceptT ε (StateM W) α) (pure a) value :=
  fun w log => ⟨w, [], by rw [h]; exact .pure a w log, by simp⟩

theorem mono (h : Yields sites p q value) (hsites : ∀ site, sites site → sites' site) :
    Yields sites' p q value := by
  intro w log
  obtain ⟨w', calls, htraces, hcalls⟩ := h w log
  exact ⟨w', calls, htraces, fun c hc => hsites _ (hcalls c hc)⟩

theorem adapt {ε' : Type} (f : ε → ε') (h : Yields sites p q value) :
    Yields sites (ExceptT.adapt f p) (ExceptT.adapt f q) value := by
  intro w log
  obtain ⟨w', calls, htraces, hcalls⟩ := h w log
  exact ⟨w', calls, htraces.adapt f, hcalls⟩

/-- What two computations in a row yield is told by the invocations of both. -/
theorem bind {f : α → ExceptT ε (StateM W) β} {g : α → ExceptT ε (StateM (W × List (Call S))) β}
    {value' : List (Call S) → List (Call S) → β} {both : List (Call S) → β} (h : Yields sites p q value)
    (h' : ∀ calls, Yields sites' (f (value calls)) (g (value calls)) (value' calls))
    (hboth : ∀ calls calls', (∀ c ∈ calls, sites c.site) → (∀ c ∈ calls', sites' c.site) →
      both (calls ++ calls') = value' calls calls') :
    Yields (fun site => sites site ∨ sites' site) (p >>= f) (q >>= g) both := by
  intro w log
  obtain ⟨w₁, calls, htraces, hcalls⟩ := h w log
  obtain ⟨w₂, calls', htraces', hcalls'⟩ := h' calls w₁ (log ++ calls)
  refine ⟨w₂, calls ++ calls', ?_, fun c hc => (List.mem_append.1 hc).imp (hcalls c) (hcalls' c)⟩
  rw [hboth calls calls' hcalls hcalls']
  exact htraces.bind htraces'

/-- A hook is one invocation, which tells what it returned. -/
theorem hook (site : S) (stage : Nat) (k : Hook (StateM W)) (received : String)
    {value : List (Call S) → String}
    (h : ∀ w, ∃ text, ((k received).run.run w).1 = .ok text ∧
      value [⟨site, stage, received, .ok text⟩] = text) :
    Yields (· = site) (ExceptT.adapt (stage, ·) (k received))
      (ExceptT.adapt (stage, ·) (Hook.logged site stage k received)) value := by
  intro w log
  obtain ⟨text, hreturned, hvalue⟩ := h w
  have hrun : (k received).run.run w = (.ok text, ((k received).run.run w).2) := Prod.ext hreturned rfl
  have htraces : Traces (k received) (Hook.logged site stage k received) w log (.ok text) _
      [⟨site, stage, received, .ok text⟩] := ⟨hrun, run_logged site stage hrun log⟩
  refine ⟨((k received).run.run w).2, [⟨site, stage, received, .ok text⟩], ?_, by simp⟩
  rw [hvalue]
  exact htraces.adapt (stage, ·)

/-- A stack in which no caller has the hook yields what the default preset gives. -/
theorem stackRun_default {P Q : Type} {presets : Stack P} {copy : Nat → P → Q} {site : S}
    {select : P → Option (Hook (StateM W))} {select' : Q → Option (Hook (StateM (W × List (Call S))))}
    (hcopy : ∀ stage p, select' (copy stage p) = (select p).map (Hook.logged site stage))
    {f : String → String} (hdefault : select presets.default = some fun s => Pure.pure (f s))
    (hcallers : ∀ p ∈ presets.callers, select p = none) (hook : HookName) (model seed : String) :
    Yields (· = site) (presets.run hook model select seed)
      ((presets.mapStages copy).run hook model select' seed) fun _ => f seed := by
  have hnone : ∀ k ∈ presets.callers.map select, k = none := by
    simpa using hcallers
  have hlogged : ∀ k ∈ loggedFrom site 1 (presets.callers.map select), k = none := by
    intro k hk
    obtain ⟨⟨hook, stage⟩, hmem, rfl⟩ := List.mem_map.1 hk
    simp [hnone hook (List.fst_mem_of_mem_zipIdx hmem)]
  have hfirst : Yields (W := W) (· = site) _ _ fun _ => f seed :=
    .hook site 0 (fun s => Pure.pure (f s)) seed fun _ => ⟨f seed, rfl, rfl⟩
  have hrest : Yields (· = site) (runFrom 1 (presets.callers.map select) (f seed))
      (runFrom 1 (loggedFrom site 1 (presets.callers.map select)) (f seed)) fun _ => f seed := by
    rw [runFrom_none 1 hnone, runFrom_none 1 hlogged]
    exact pure rfl
  refine adapt _ ?_
  rw [Plan.hooks_mapStages presets hcopy, Stack.stages, List.map_cons, hdefault]
  exact mono (bind hfirst (fun _ => hrest) fun _ _ _ _ => rfl) (by simp)

end Yields

/-! ### Texts that are left -/

/-- The hook gives back a line or the empty text when it receives it, or gives nothing. -/
def Hook.KeepsOrDrops (k : Hook (StateM W)) (line : String) : Prop :=
  ∀ content ∈ [line, ""], ∀ w,
    ((k content).run.run w).1 = .ok content ∨ ((k content).run.run w).1 = .ok ""

variable [DecidableEq S]

/-- Some invocation at the site gave nothing. -/
def dropped (calls : List (Call S)) (site : S) : Bool :=
  calls.any fun c => c.site = site ∧ c.returned = .ok ""

/-- What is left of a text at a site. -/
def left (calls : List (Call S)) (site : S) (text : String) : String :=
  if dropped calls site then "" else text

theorem left_append (calls calls' : List (Call S)) (site : S) (text : String) :
    left (calls ++ calls') site text = left calls' site (left calls site text) := by
  have happend : dropped (calls ++ calls') site = (dropped calls site || dropped calls' site) :=
    List.any_append
  unfold left
  rw [happend]
  cases dropped calls site <;> cases dropped calls' site <;> rfl

theorem left_elsewhere {calls : List (Call S)} {site : S} (h : ∀ c ∈ calls, c.site ≠ site) (text : String) :
    left calls site text = text := by
  have hdropped : dropped calls site = false := by
    rw [dropped, List.any_eq_false]
    exact fun c hc => by simp [h c hc]
  rw [left, hdropped]
  rfl

theorem left_call (site : S) (stage : Nat) (received returned text : String) :
    left [⟨site, stage, received, .ok returned⟩] site text = if returned = "" then "" else text := by
  simp [left, dropped]

theorem left_mem {text line : String} (h : text ∈ [line, ""]) (calls : List (Call S)) (site : S) :
    left calls site text ∈ [line, ""] := by
  unfold left
  split
  · simp
  · exact h

/-- What is left of the texts without the empty ones are the texts that are not dropped. -/
theorem filter_left {ι : Type} (site : ι → S) {text : ι → String} (htext : ∀ i, text i ≠ "")
    (calls : List (Call S)) (l : List ι) :
    (l.map fun i => left calls (site i) (text i)).filter (!·.isEmpty) =
      (l.filter fun i => !dropped calls (site i)).map text := by
  induction l with
  | nil => rfl
  | cons i l ih =>
    rw [List.map_cons, List.filter_cons, List.filter_cons, ih]
    by_cases hdropped : dropped calls (site i) = true
    · simp [left, hdropped]
    · simp [left, hdropped, htext i]

namespace Yields

variable {site : S}

/-- A hook that keeps or drops leaves what it received or nothing. -/
theorem hook_keepsOrDrops (site : S) (stage : Nat) {k : Hook (StateM W)} {line received : String}
    (h : k.KeepsOrDrops line) (hreceived : received ∈ [line, ""]) :
    Yields (· = site) (ExceptT.adapt (stage, ·) (k received))
      (ExceptT.adapt (stage, ·) (Hook.logged site stage k received)) (left · site received) := by
  refine hook site stage k received fun w => ?_
  rcases h received hreceived w with hkept | hdropped
  · refine ⟨received, hkept, ?_⟩
    rw [left_call]
    split
    · next hempty => exact hempty.symm
    · rfl
  · exact ⟨"", hdropped, by rw [left_call, if_pos rfl]⟩

/-- A default hook gives a text, which is left if there is one. -/
theorem hook_default (site : S) {text : String} (htext : text ≠ "") (received : String) :
    Yields (W := W) (· = site) (ExceptT.adapt (0, ·) (Pure.pure text : ExceptT String (StateM W) String))
      (ExceptT.adapt (0, ·) (Hook.logged site 0 (fun _ => Pure.pure text) received)) (left · site text) :=
  hook site 0 (fun _ => Pure.pure text) received fun _ =>
    ⟨text, rfl, by rw [left_call, if_neg htext]⟩

/-- A chain of hooks that keep or drop leaves what it received or nothing. -/
theorem runFrom (site : S) (stage : Nat) {hooks : List (Option (Hook (StateM W)))} {line received : String}
    (h : ∀ hook ∈ hooks, ∀ k ∈ hook, k.KeepsOrDrops line) (hreceived : received ∈ [line, ""]) :
    Yields (· = site) (Render.runFrom stage hooks received)
      (Render.runFrom stage (loggedFrom site stage hooks) received) (left · site received) := by
  induction hooks generalizing stage received with
  | nil => exact pure rfl
  | cons first rest ih =>
    obtain ⟨hfirst, hrest⟩ := List.forall_mem_cons.1 h
    cases first with
    | none => exact ih (stage + 1) hrest hreceived
    | some k =>
      refine mono (bind (hook_keepsOrDrops site stage (hfirst k rfl) hreceived) (fun calls =>
        ih (stage + 1) hrest (left_mem hreceived calls site)) fun calls calls' _ _ => ?_) (by simp)
      exact left_append calls calls' site received

/-- A stack on top of a default hook that gives a text leaves that text or nothing. -/
theorem stackRun {P Q : Type} {presets : Stack P} {copy : Nat → P → Q}
    {select : P → Option (Hook (StateM W))} {select' : Q → Option (Hook (StateM (W × List (Call S))))}
    (hcopy : ∀ stage p, select' (copy stage p) = (select p).map (Hook.logged site stage)) {text : String}
    (hdefault : select presets.default = some fun _ => Pure.pure text) (htext : text ≠ "")
    (h : ∀ p ∈ presets.callers, ∀ k ∈ select p, k.KeepsOrDrops text) (hook : HookName)
    (model seed : String) :
    Yields (· = site) (presets.run hook model select seed)
      ((presets.mapStages copy).run hook model select' seed) (left · site text) := by
  have hcallers : ∀ hook ∈ presets.callers.map select, ∀ k ∈ hook, k.KeepsOrDrops text :=
    List.forall_mem_map.2 h
  refine adapt _ ?_
  rw [Plan.hooks_mapStages presets hcopy, Stack.stages, List.map_cons, hdefault]
  refine mono (bind (hook_default site htext seed) (fun calls =>
    runFrom site 1 hcallers (left_mem List.mem_cons_self calls site)) fun calls calls' _ _ => ?_) (by simp)
  exact left_append calls calls' site text

/-- A list of sites is worked off in order, and every site leaves its text or nothing. -/
theorem mapM {ι : Type} {site : ι → S} {text : ι → String} {f : ι → ExceptT ε (StateM W) String}
    {g : ι → ExceptT ε (StateM (W × List (Call S))) String} {l : List ι} (distinct : (l.map site).Nodup)
    (h : ∀ i ∈ l, Yields (· = site i) (f i) (g i) (left · (site i) (text i))) :
    Yields (· ∈ l.map site) (l.mapM f) (l.mapM g) fun calls => l.map fun i => left calls (site i) (text i) := by
  induction l with
  | nil => exact pure rfl
  | cons i l ih =>
    obtain ⟨hi, hl⟩ := List.forall_mem_cons.1 h
    obtain ⟨hnew, hdistinct⟩ := List.nodup_cons.1 distinct
    let texts (calls : List (Call S)) := l.map fun j => left calls (site j) (text j)
    have hrest : ∀ first, Yields (· ∈ l.map site) (l.mapM f >>= fun rest => Pure.pure (first :: rest))
        (l.mapM g >>= fun rest => Pure.pure (first :: rest)) fun calls => first :: texts calls := by
      intro first
      have hlast : ∀ calls, Yields (S := S) (W := W) (ε := ε) (fun _ => False)
          (Pure.pure (first :: texts calls)) (Pure.pure (first :: texts calls))
          fun _ => first :: texts calls := fun calls => pure rfl
      refine mono (bind (ih hdistinct hl) hlast fun calls calls' _ hnone => ?_) (by simp)
      obtain rfl : calls' = [] := List.eq_nil_iff_forall_not_mem.2 hnone
      rw [List.append_nil]
    rw [List.mapM_cons, List.mapM_cons]
    refine mono (bind hi (fun calls => hrest (left calls (site i) (text i)))
      fun calls calls' hcalls hcalls' => ?_) (by simp)
    -- the sites are distinct, so no invocation at one tells of the text at another
    have hfirst : left (calls ++ calls') (site i) (text i) = left calls (site i) (text i) := by
      rw [left_append]
      exact left_elsewhere (fun c hc heq => hnew (by rw [← heq]; exact hcalls' c hc)) _
    have hothers : texts (calls ++ calls') = texts calls' := by
      refine List.map_congr_left fun j hj => ?_
      have helsewhere : ∀ c ∈ calls, c.site ≠ site j := by
        intro c hc heq
        rw [hcalls c hc] at heq
        exact hnew (heq ▸ List.mem_map_of_mem hj)
      rw [left_append, left_elsewhere helsewhere]
    rw [List.map_cons, hfirst]
    exact congrArg (left calls (site i) (text i) :: ·) hothers

end Yields

end

/-! ### Constants that are kept -/

section

variable {W : Type} {n : ModelNode} {type : String}

/-- What the item hooks are told of the constants of an enum. -/
def itemContexts (r : Renderer) (n : ModelNode) (type : String) : List ItemContext :=
  (n.enumValues.getD []).zipIdx.map fun p =>
    ⟨n, r, type, backingType n, constantName type p.1, p.1, p.2⟩

/-- The preset leaves declarations alone, and its item hook keeps or drops every constant. -/
structure EnumPreset.KeepsOrDrops (p : EnumPreset (StateM W)) (contexts : List ItemContext) : Prop where
  self : p.self = none
  item : ∀ hook ∈ p.item, ∀ c ∈ contexts, (hook c).KeepsOrDrops (constantLine c)

theorem constantLine_ne_empty (c : ItemContext) : constantLine c ≠ "" := by
  simp [constantLine, ← String.toList_eq_nil_iff]

variable {r : Renderer} {presets : Stack (EnumPreset (StateM W))} (hdefault : presets.default = .default)

include hdefault

theorem yields_item {c : ItemContext} {contexts : List ItemContext} (hc : c ∈ contexts)
    (h : ∀ p ∈ presets.callers, p.KeepsOrDrops contexts) :
    Yields (· = .item c.index) (presets.run .item type (·.item.map (· c)) "")
      ((presets.mapStages EnumPreset.logged).run .item type (·.item.map (· c)) "")
      (left · (.item c.index) (constantLine c)) := by
  refine .stackRun (fun stage p => ?_) ?_ (constantLine_ne_empty c) (fun p hp k hk => ?_) .item type ""
  · simp [EnumPreset.logged, Function.comp_def]
  · rw [hdefault]
    rfl
  · obtain ⟨hook, hhook, rfl⟩ := Option.map_eq_some_iff.1 hk
    exact (h p hp).item hook hhook c hc

/-- The block of a declaration that no caller touches. -/
theorem yields_self {contexts : List ItemContext} (h : ∀ p ∈ presets.callers, p.KeepsOrDrops contexts)
    (c : EnumContext) (declaration : String) :
    Yields (· = .self) (presets.run .self type (·.self.map (· c)) declaration)
      ((presets.mapStages EnumPreset.logged).run .self type (·.self.map (· c)) declaration)
      fun _ => enumBlock c declaration := by
  refine .stackRun_default (f := enumBlock c) (fun stage p => ?_) ?_ (fun p hp => ?_) .self type declaration
  · simp [EnumPreset.logged, Function.comp_def]
  · rw [hdefault]
    rfl
  · simp [(h p hp).self]

/-- An enum has the block of what is left of the lines of its constants. -/
theorem yields_renderEnum (h : ∀ p ∈ presets.callers, p.KeepsOrDrops (itemContexts r n type))
    (hnamed : NamedApart n (constantNames n) type) :
    Yields (fun _ => True) (renderEnum r presets n) (renderEnum r (presets.mapStages EnumPreset.logged) n)
      fun calls => enumBlock ⟨n, r, type, backingType n, (itemContexts r n type).map fun c =>
        left calls (.item c.index) (constantLine c)⟩ (enumDeclaration r type (backingType n)) := by
  let constants := (n.enumValues.getD []).map fun v => (constantName type v, v)
  let context (c : (String × Value) × Nat) : ItemContext :=
    ⟨n, r, type, backingType n, c.1.1, c.1.2, c.2⟩
  have hshape : enumShape n = .ok (type, constants) := enumShape_eq_ok_iff_namedApart.2 ⟨hnamed, rfl⟩
  have hcontexts : itemContexts r n type = constants.zipIdx.map context := by
    rw [itemContexts, List.zipIdx_map, List.map_map]
    rfl
  have hitem : ∀ c ∈ constants.zipIdx,
      Yields (· = .item c.2) (presets.run .item type (·.item.map (· (context c))) "")
        ((presets.mapStages EnumPreset.logged).run .item type (·.item.map (· (context c))) "")
        (left · (.item c.2) (constantLine (context c))) :=
    fun c hc => yields_item hdefault (hcontexts ▸ List.mem_map_of_mem hc) h
  have hitems := Yields.mapM (nodup_itemSites constants) hitem
  simp only [renderEnum, hshape, liftExcept, pure_bind]
  refine .mono (hitems.bind (fun calls => yields_self hdefault h _ _) fun calls calls' _ hcalls' => ?_) (by simp)
  -- the invocations for the declaration tell of no constant
  have hleft : ∀ k line, left (calls ++ calls') (.item k) line = left calls (.item k) line := by
    intro k line
    rw [left_append]
    exact left_elsewhere (fun c hc heq => by simp [hcalls' c hc] at heq) _
  simp only [hleft, hcontexts, List.map_map, Function.comp_def]
  rfl

/-! ### The block of the constants that are kept -/

omit hdefault

/-- The values whose constants are kept, with their positions. -/
def keptValues (calls : List (Call EnumSite)) (values : List Value) : List (Value × Nat) :=
  values.zipIdx.filter fun p => !dropped calls (.item p.2)

theorem enumBlock_filter (c : EnumContext) (declaration : String) :
    enumBlock { c with items := c.items.filter (!·.isEmpty) } declaration = enumBlock c declaration := by
  simp [enumBlock, List.filter_filter]

/-- The lines that are left of an enum are those of the values that are kept. -/
theorem filter_items (r : Renderer) (n : ModelNode) (type : String) (calls : List (Call EnumSite)) :
    ((itemContexts r n type).map fun c => left calls (.item c.index) (constantLine c)).filter (!·.isEmpty) =
      (keptValues calls (n.enumValues.getD [])).map fun p =>
        enumLine r.options.constantTyping type p.1 p.2 := by
  have hlines : ((itemContexts r n type).map fun c => left calls (.item c.index) (constantLine c)) =
      (n.enumValues.getD []).zipIdx.map fun p =>
        left calls (.item p.2) (enumLine r.options.constantTyping type p.1 p.2) := by
    rw [itemContexts, List.map_map]
    exact List.map_congr_left fun p _ => congrArg (left calls (.item p.2))
      (constantLine_eq n r type (backingType n) p.1 p.2)
  have hne : ∀ p : Value × Nat, enumLine r.options.constantTyping type p.1 p.2 ≠ "" := fun p => by
    simp [enumLine, ← String.toList_eq_nil_iff]
  rw [hlines, filter_left (fun p : Value × Nat => EnumSite.item p.2) hne]
  rfl

/-- An enum whose constants are kept or dropped has the text of those that are kept. -/
theorem yields_enumText (hdefault : presets.default = .default)
    (h : ∀ p ∈ presets.callers, p.KeepsOrDrops (itemContexts r n type))
    (hnamed : NamedApart n (constantNames n) type) :
    Yields (fun _ => True) (renderEnum r presets n) (renderEnum r (presets.mapStages EnumPreset.logged) n)
      fun calls => enumText r.options.indent.unit type (backingType n).text
        ((keptValues calls (n.enumValues.getD [])).map fun p =>
          enumLine r.options.constantTyping type p.1 p.2) := by
  obtain ⟨id, -, rfl⟩ := hnamed.1
  have htext : ∀ calls : List (Call EnumSite),
      enumBlock ⟨n, r, typeName id, backingType n, (itemContexts r n (typeName id)).map fun c =>
          left calls (.item c.index) (constantLine c)⟩ (enumDeclaration r (typeName id) (backingType n)) =
        enumText r.options.indent.unit (typeName id) (backingType n).text
          ((keptValues calls (n.enumValues.getD [])).map fun p =>
            enumLine r.options.constantTyping (typeName id) p.1 p.2) := by
    intro calls
    rw [← enumBlock_filter, filter_items]
    refine enumBlock_eq (oneLine_typeName id) rfl fun l hl => ?_
    obtain ⟨p, -, rfl⟩ := List.mem_map.1 hl
    exact oneLine_enumLine _ (oneLine_typeName id) p.1 p.2
  have hyields := yields_renderEnum hdefault h hnamed
  simpa only [htext] using hyields

end

/-- The line of a constant that states the type of its enum. -/
def typedLine (type : String) (value : Value) : String :=
  constantName type value ++ " " ++ type ++ " = " ++ literal value

theorem enumLine_eq_typedLine_iff (typing : ConstantTyping) (type : String) (value : Value) (k : Nat) :
    enumLine typing type value k = typedLine type value ↔ k = 0 ∨ value.isNull ∨ typing = .every := by
  unfold enumLine typedLine
  split
  · next hstates => simpa [String.append_assoc] using hstates
  · next hnot =>
    refine iff_of_false (fun heq => ?_) hnot
    have hlength := congrArg String.length heq
    have hblank : "".length = 0 ∧ " ".length = 1 := ⟨rfl, rfl⟩
    simp only [String.length_append] at hlength
    omega

end Render

namespace Generate

open Model (Index ModelNode)
open Render (NamedApart Options Preset Recording accountOf_of_run backingType backingType_alike constantName
  constantNames enumLine enumLine_eq_typedLine_iff enumText enumValues_alike itemContexts typedLine
  yields_enumText)

/-- The presets of the callers leave the declarations of enums alone, and keep or drop the constants of the
model. -/
def Generator.KeepsOrDrops (g : Generator) (m : ModelNode) (x : Index) (type : String) : Prop :=
  ∀ p ∈ g.presets, ∀ e ∈ p.enums, e.KeepsOrDrops (itemContexts (g.renderer x) (x.nameNested m) type)

/-- The values of an enum whose constants are kept when it is rendered, with their positions. -/
def Generator.keptValues (g : Generator) (m : ModelNode) (x : Index) : List (Json.Value × Nat) :=
  Render.keptValues (g.enumCalls m x) (m.enumValues.getD [])

/-- An enum with a usable name and distinct constant names, whose constants the presets of callers keep or
drop, has the block of the constants that are kept, in the order of the values. The first of them states the
type exactly if its value is the first of all or null or every constant states it. -/
theorem kept_constants {g : Generator} {m : ModelNode} {x : Index} {id : String} (hid : m.id = some id)
    (usable : typeName id ≠ "")
    (distinct : ((m.enumValues.getD []).map (constantName (typeName id))).Nodup)
    (keeps : g.KeepsOrDrops m x (typeName id)) :
    (∃ dependencies, g.renderEnum m x =
      .ok ⟨enumText g.options.indent.unit (typeName id) (backingType m).text ((g.keptValues m x).map fun p =>
        enumLine g.options.constantTyping (typeName id) p.1 p.2), dependencies⟩) ∧
    ∀ p ∈ (g.keptValues m x).head?,
      enumLine g.options.constantTyping (typeName id) p.1 p.2 = typedLine (typeName id) p.1 ↔
        p.2 = 0 ∨ p.1.isNull ∨ g.options.constantTyping = .every := by
  refine ⟨?_, fun p _ => enumLine_eq_typedLine_iff _ _ p.1 p.2⟩
  have halike := ModelNode.alike_nested x m
  have hvalues := enumValues_alike halike
  have hnamed : NamedApart (x.nameNested m) (constantNames (x.nameNested m)) (typeName id) := by
    refine ⟨⟨id, halike.id_eq.trans hid, rfl⟩, usable, ?_⟩
    rwa [constantNames, hvalues]
  have hcallers : ∀ p ∈ g.enumStack.callers,
      p.KeepsOrDrops (itemContexts (g.renderer x) (x.nameNested m) (typeName id)) := by
    intro p hp
    obtain ⟨preset, hpreset, henums⟩ := List.mem_filterMap.1 hp
    exact keeps preset hpreset p henums
  obtain ⟨d, calls, htraces, -⟩ := yields_enumText rfl hcallers hnamed {} []
  have hcalls : g.enumCalls m x = calls := accountOf_of_run htraces.logged
  rw [backingType_alike halike, hvalues] at htraces
  rw [Generator.renderEnum, collect_of_run htraces.plain, Generator.keptValues, hcalls]
  exact ⟨d.toList, rfl⟩

/-- A preset that drops the constant at a position. -/
def dropAt (k : Nat) : Preset Recording where
  enums := some { item := some fun c content => pure (if c.index = k then "" else content) }

theorem keepsOrDrops_dropAt (options : Options) (k : Nat) (m : ModelNode) (x : Index) (type : String) :
    Generator.KeepsOrDrops { options, presets := [dropAt k] } m x type := by
  rintro p hp e he
  obtain rfl := List.mem_singleton.1 hp
  obtain rfl := Option.some.inj he
  refine ⟨rfl, fun hook hhook c _ content _ w => ?_⟩
  obtain rfl := Option.some.inj hhook
  by_cases hindex : c.index = k
  · right
    simp only [if_pos hindex]
    rfl
  · left
    simp only [if_neg hindex]
    rfl

/-- An enum of three strings. -/
def letters : ModelNode where
  id := some "t"
  type := some (.single .string)
  enumValues := some [.string "a", .string "b", .string "c"]

theorem kept_constants_letters :
    letters.id = some "t" ∧ typeName "t" ≠ "" ∧
      ((letters.enumValues.getD []).map (constantName (typeName "t"))).Nodup ∧
      Generator.KeepsOrDrops { presets := [dropAt 1] } letters .empty (typeName "t") ∧
      ∃ dependencies, Generator.renderEnum { presets := [dropAt 1] } letters .empty =
        .ok ⟨"// T represents an enum of string.\ntype T string\n\nconst (\n\tTA T = \"a\"\n\tTC = \"c\"\n)",
          dependencies⟩ := by
  have usable : typeName "t" ≠ "" := by decide
  have distinct : ((letters.enumValues.getD []).map (constantName (typeName "t"))).Nodup := by
    decide +kernel
  have keeps := keepsOrDrops_dropAt {} 1 letters .empty (typeName "t")
  have htext : enumText (Generator.options { presets := [dropAt 1] }).indent.unit (typeName "t")
      (backingType letters).text ((Generator.keptValues { presets := [dropAt 1] } letters .empty).map fun p =>
        enumLine (Generator.options { presets := [dropAt 1] }).constantTyping (typeName "t") p.1 p.2) =
      "// T represents an enum of string.\ntype T string\n\nconst (\n\tTA T = \"a\"\n\tTC = \"c\"\n)" := by
    decide +kernel
  obtain ⟨⟨dependencies, hrender⟩, -⟩ := kept_constants rfl usable distinct keeps
  rw [htext] at hrender
  exact ⟨rfl, usable, distinct, keeps, dependencies, hrender⟩

/-- Without the first constant no constant of the block states the type. -/
theorem first_kept_untyped :
    ¬ (∀ (g : Generator) (m : ModelNode) (x : Index) (id : String), m.id = some id → typeName id ≠ "" →
        ((m.enumValues.getD []).map (constantName (typeName id))).Nodup →
        g.KeepsOrDrops m x (typeName id) → ∀ p ∈ (g.keptValues m x).head?,
          enumLine g.options.constantTyping (typeName id) p.1 p.2 = typedLine (typeName id) p.1) ∧
      Generator.renderEnum { presets := [dropAt 0] } letters .empty =
        .ok ⟨"// T represents an enum of string.\ntype T string\n\nconst (\n\tTB = \"b\"\n\tTC = \"c\"\n)",
          []⟩ := by
  refine ⟨fun h => ?_, by decide +kernel⟩
  have hkept : (Generator.keptValues { presets := [dropAt 0] } letters .empty).head? =
      some (.string "b", 1) := rfl
  have hline := h { presets := [dropAt 0] } letters .empty "t" rfl (by decide) (by decide +kernel)
    (keepsOrDrops_dropAt {} 0 letters .empty (typeName "t")) (.string "b", 1) hkept
  rw [enumLine_eq_typedLine_iff] at hline
  simp [Json.Value.isNull] at hline

end Generate

end SchemaGo
