import SchemaGo.Proofs.Render.Shape
import SchemaGo.Proofs.Render.Trace

/-! The protocol of hooks. A struct or an enum that has no usable name, or two fields or constants of one
name, is refused before any hook. Otherwise the sites of the rendering are worked off in order, each
through the stages that have its hook, in the order of the stack. The first stage of a site receives the
seed and each later one what the stage before returned, and the first failure ends the run and is its
result. The hooks are any, with effects on any state. -/

namespace SchemaGo.Render

open Json (Value)
open Model (ModelNode)

/-! ### Stacks that keep account -/

namespace Stack

variable {P Q : Type}

/-- The stack of the presets that `f` makes of the stages. -/
def mapStages (f : Nat → P → Q) (s : Stack P) : Stack Q :=
  ⟨f 0 s.default, (s.callers.zipIdx 1).map fun (p, stage) => f stage p⟩

/-- The stages of the presets that have some hook. -/
def stagesWith (s : Stack P) (has : P → Bool) : List Nat :=
  (s.stages.zipIdx.filter (has ·.1)).map (·.2)

theorem stages_mapStages (f : Nat → P → Q) (s : Stack P) :
    (s.mapStages f).stages = s.stages.zipIdx.map fun (p, stage) => f stage p :=
  rfl

end Stack

/-! ### Sites and plans -/

/-- Where a rendering invokes hooks: the sites and the stages that it passes there, in order, what the
first stage of a site receives when the calls before it are known, and the site that gives the result. -/
structure Plan (S : Type) where
  sites : List S
  stages : S → List Nat
  hook : S → HookName
  seed : String → List (Call S) → S → String
  last : S

/-- The invocations that are planned. -/
def Plan.slots {S : Type} (plan : Plan S) : List (S × Nat) :=
  plan.sites.flatMap fun site => (plan.stages site).map (site, ·)

inductive StructSite where
  | field (key : String)
  | additionalContent
  | self
  deriving DecidableEq

inductive EnumSite where
  | item (index : Nat)
  | self
  deriving DecidableEq

section

variable {m : Type → Type}

def StructPreset.has (site : StructSite) (p : StructPreset m) : Bool :=
  match site with
  | .field _ => p.field.isSome
  | .additionalContent => p.additionalContent.isSome
  | .self => p.self.isSome

def EnumPreset.has (site : EnumSite) (p : EnumPreset m) : Bool :=
  match site with
  | .item _ => p.item.isSome
  | .self => p.self.isSome

/-- The fields of a struct, then the additional content, then the declaration, which receives the
indented body. -/
def structPlan (r : Renderer) (presets : Stack (StructPreset m)) (n : ModelNode) : Plan StructSite where
  sites := (structFields n).map (.field ·.key) ++ [.additionalContent, .self]
  stages site := presets.stagesWith (StructPreset.has site)
  hook
    | .field _ => .field
    | .additionalContent => .additionalContent
    | .self => .self
  seed _ log
    | .self => structBody r ((structFields n).map fun f => (lastText? log (.field f.key)).getD "")
      ((lastText? log .additionalContent).getD "")
    | _ => ""
  last := .self

/-- The values of an enum, then the declaration. -/
def enumPlan (r : Renderer) (presets : Stack (EnumPreset m)) (n : ModelNode) : Plan EnumSite where
  sites := (List.range (n.enumValues.getD []).length).map .item ++ [.self]
  stages site := presets.stagesWith (EnumPreset.has site)
  hook
    | .item _ => .item
    | .self => .self
  seed type _
    | .self => enumDeclaration r type (backingType n)
    | .item _ => ""
  last := .self

end

section

variable {W : Type}

def StructPreset.logged (stage : Nat) (p : StructPreset (StateM W)) :
    StructPreset (StateM (W × List (Call StructSite))) where
  self := p.self.map fun hook c => Hook.logged .self stage (hook c)
  field := p.field.map fun hook c => Hook.logged (.field c.field.key) stage (hook c)
  additionalContent := p.additionalContent.map fun hook c =>
    Hook.logged .additionalContent stage (hook c)

def EnumPreset.logged (stage : Nat) (p : EnumPreset (StateM W)) :
    EnumPreset (StateM (W × List (Call EnumSite))) where
  self := p.self.map fun hook c => Hook.logged .self stage (hook c)
  item := p.item.map fun hook c => Hook.logged (.item c.index) stage (hook c)

end

/-! ### The protocol -/

/-- A result that some hook is to blame for. -/
def HookFailed {α : Type} (result : Except RenderError α) : Prop :=
  ∃ model hook stage source, result = .error (.hookFailure model hook stage source)

theorem not_hookFailed_bind {α β : Type} {x : Except RenderError α} {f : α → Except RenderError β}
    (hx : ¬ HookFailed x) (hf : ∀ a, ¬ HookFailed (f a)) : ¬ HookFailed (x >>= f) := by
  cases x with
  | error e => simpa [HookFailed, bind, Except.bind] using hx
  | ok a => exact hf a

theorem not_hookFailed_modelTypeName (n : ModelNode) : ¬ HookFailed (modelTypeName n) := by
  unfold modelTypeName
  dsimp only
  split
  · simp [HookFailed]
  · split <;> simp [HookFailed]

/-- The type name of a model that has one and whose other names are apart. -/
def NamedApart (n : ModelNode) (names : String → List String) (type : String) : Prop :=
  (∃ id, n.id = some id ∧ typeName id = type) ∧ type ≠ "" ∧ (names type).Nodup

section

variable {S : Type} [DecidableEq S]

/-- The calls follow the plan, each on the content of its site, to the end or to the first failure, and
the result is the content of the last site or that failure. -/
structure Plan.Follows (plan : Plan S) (type : String) (calls : List (Call S))
    (result : Except RenderError String) : Prop where
  order : calls.map Call.slot <+: plan.slots
  received : ∀ before c after, calls = before ++ c :: after →
    c.received = content (plan.seed type) before c.site
  ended : (calls.map Call.slot = plan.slots ∧ (∀ c ∈ calls, ¬ c.Fails) ∧
      result = .ok (content (plan.seed type) calls plan.last)) ∨
    ∃ before c source, calls = before ++ [c] ∧ (∀ b ∈ before, ¬ b.Fails) ∧ c.returned = .error source ∧
      result = .error (.hookFailure type (plan.hook c.site) c.stage source)

/-- What the calls of a rendering, its result and its effect obey. -/
structure Plan.Obeyed {W : Type} (plan : Plan S) (n : ModelNode) (names : String → List String) (w w' : W)
    (calls : List (Call S)) (result : Except RenderError String) : Prop where
  refused : (¬ ∃ type, NamedApart n names type) → calls = [] ∧ w' = w ∧ ¬ HookFailed result
  followed : ∀ type, NamedApart n names type → plan.Follows type calls result
  failed_iff : HookFailed result ↔ ∃ c ∈ calls, c.Fails

namespace Plan

variable {plan : Plan S} {type : String} {calls : List (Call S)} {result : Except RenderError String}

theorem Follows.failed_iff (h : plan.Follows type calls result) :
    HookFailed result ↔ ∃ c ∈ calls, c.Fails := by
  rcases h.ended with ⟨-, hcalls, hresult⟩ | ⟨before, c, source, hcalls, -, hreturned, hresult⟩
  · constructor
    · rintro ⟨model, hook, stage, source, hfailed⟩
      simp [hresult] at hfailed
    · rintro ⟨c, hc, hfails⟩
      exact absurd hfails (hcalls c hc)
  · exact ⟨fun _ => ⟨c, by simp [hcalls], source, hreturned⟩, fun _ => ⟨_, _, _, _, hresult⟩⟩

variable {W : Type} {n : ModelNode} {names : String → List String}

theorem obeyed_of_refused (h : ¬ ∃ type, NamedApart n names type) (w : W)
    (hresult : ¬ HookFailed result) : plan.Obeyed n names w w [] result :=
  ⟨fun _ => ⟨rfl, rfl, hresult⟩, fun type htype => absurd ⟨type, htype⟩ h, by simp [hresult]⟩

theorem obeyed_of_follows (h : NamedApart n names type) {w w' : W}
    (hfollows : plan.Follows type calls result) : plan.Obeyed n names w w' calls result := by
  refine ⟨fun hnone => absurd ⟨type, h⟩ hnone, fun type' h' => ?_, hfollows.failed_iff⟩
  obtain ⟨⟨id, hid, rfl⟩, -, -⟩ := h
  obtain ⟨⟨id', hid', rfl⟩, -, -⟩ := h'
  rw [hid, Option.some.injEq] at hid'
  rwa [← hid']

/-- The failure of an invocation as a result. -/
def failure (plan : Plan S) (type : String) (slot : S × Nat) (source : String) : RenderError :=
  .hookFailure type (plan.hook slot.1) slot.2 source

/-- A rendering that goes through the plan and results in the content of the last site follows it. -/
theorem follows_of_steps {p : ExceptT RenderError (StateM W) String}
    {q : ExceptT RenderError (StateM (W × List (Call S))) String}
    (h : Steps (content (plan.seed type)) (plan.failure type) plan.slots [] p q
      fun log text => content (plan.seed type) log plan.last = text) (w : W) :
    ∃ result w' calls, Traces p q w [] result w' calls ∧ plan.Follows type calls result := by
  obtain ⟨result, w', calls, failed, htraces, hruns, hresult⟩ := h w
  refine ⟨result, w', calls, htraces, hruns.isPrefix, fun before c after hc => ?_, ?_⟩
  · simpa using hruns.received_eq hc
  · cases failed with
    | none =>
      obtain ⟨text, rfl, rfl⟩ := hresult
      exact .inl ⟨hruns.completed.1, hruns.completed.2, rfl⟩
    | some ended =>
      obtain ⟨before, c, hc, hslot, hreturned, hbefore⟩ := hruns.stopped
      refine .inr ⟨before, c, ended.2, hc, hbefore, hreturned, hresult.trans ?_⟩
      rw [failure, ← hslot]
      rfl

/-- A rendering that fails as its shape does and goes through the plan otherwise obeys the protocol. -/
theorem obeyed_of_steps (plan : Plan S) {α : Type} {shape : Except RenderError (String × α)}
    {p : ExceptT RenderError (StateM W) String}
    {q : ExceptT RenderError (StateM (W × List (Call S))) String}
    (hshape : ∀ type, NamedApart n names type ↔ ∃ a, shape = .ok (type, a)) (hfailed : ¬ HookFailed shape)
    (hrefused : ∀ e, shape = .error e → ∀ w, Traces p q w [] (.error e) w [])
    (hsteps : ∀ type, NamedApart n names type →
      Steps (content (plan.seed type)) (plan.failure type) plan.slots [] p q
        fun log text => content (plan.seed type) log plan.last = text) (w : W) :
    ∃ result w' calls, Traces p q w [] result w' calls ∧ plan.Obeyed n names w w' calls result := by
  cases hcase : shape with
  | ok named =>
    have hnamed := (hshape named.1).2 ⟨named.2, hcase⟩
    obtain ⟨result, w', calls, htraces, hfollows⟩ := follows_of_steps (hsteps named.1 hnamed) w
    exact ⟨result, w', calls, htraces, obeyed_of_follows hnamed hfollows⟩
  | error e =>
    have hnone : ¬ ∃ type, NamedApart n names type := by
      rintro ⟨type, hnamed⟩
      obtain ⟨a, ha⟩ := (hshape type).1 hnamed
      simp [hcase] at ha
    have hresult : ¬ HookFailed (.error e : Except RenderError String) := by
      simpa [HookFailed, hcase] using hfailed
    exact ⟨.error e, w, [], hrefused e hcase w, obeyed_of_refused hnone w hresult⟩

omit [DecidableEq S] in
/-- The hooks of presets that keep account are the hooks of the presets, with the account kept. -/
theorem hooks_mapStages {P Q : Type} (presets : Stack P) {copy : Nat → P → Q}
    {select : P → Option (Hook (StateM W))} {select' : Q → Option (Hook (StateM (W × List (Call S))))}
    {site : S} (hcopy : ∀ stage p, select' (copy stage p) = (select p).map (Hook.logged site stage)) :
    (presets.mapStages copy).stages.map select' = loggedFrom site 0 (presets.stages.map select) := by
  simp [Stack.stages_mapStages, loggedFrom, List.zipIdx_map, hcopy, Function.comp_def]

/-- A site is worked off by running its hook through a stack. -/
theorem steps_run (plan : Plan S) {P Q : Type} {presets : Stack P} {has : P → Bool} {copy : Nat → P → Q}
    {select : P → Option (Hook (StateM W))} {select' : Q → Option (Hook (StateM (W × List (Call S))))}
    {site : S} (hhas : ∀ p, has p = (select p).isSome)
    (hcopy : ∀ stage p, select' (copy stage p) = (select p).map (Hook.logged site stage))
    {log : List (Call S)} {text : String} (h : content (plan.seed type) log site = text) :
    Steps (content (plan.seed type)) (plan.failure type) ((presets.stagesWith has).map (site, ·)) log
      (presets.run (plan.hook site) type select text)
      ((presets.mapStages copy).run (plan.hook site) type select' text)
      (Reaches (plan.seed type) site log) := by
  have hstages : stagesFrom 0 (presets.stages.map select) = presets.stagesWith has := by
    simp [stagesFrom, Stack.stagesWith, List.zipIdx_map, List.filter_map, hhas, Function.comp_def]
  have hchain := Steps.runFrom 0 (presets.stages.map select) h
  rw [hstages, ← hooks_mapStages presets hcopy] at hchain
  refine Steps.adapt _ (fun slot hslot source => ?_) hchain
  obtain ⟨stage, -, rfl⟩ := List.mem_map.1 hslot
  rfl

end Plan

end

/-! ### Structs -/

section

variable {W : Type} {n : ModelNode} {type : String}

/-- The names of the fields of a struct. -/
def fieldNames (n : ModelNode) : List String :=
  (structFields n).map fun f => fieldName f.key

theorem structShape_eq_ok_iff_namedApart {fields : List Field} :
    structShape n = .ok (type, fields) ↔
      NamedApart n (fun _ => fieldNames n) type ∧ fields = structFields n := by
  rw [structShape_eq_ok_iff, modelTypeName_eq_ok_iff]
  constructor
  · rintro ⟨⟨id, hid, htype, hne⟩, hnodup, hfields⟩
    exact ⟨⟨⟨id, hid, htype⟩, hne, hnodup⟩, hfields⟩
  · rintro ⟨⟨⟨id, hid, htype⟩, hne, hnodup⟩, hfields⟩
    exact ⟨⟨id, hid, htype, hne⟩, hnodup, hfields⟩

theorem nodup_fieldSites (h : (fieldNames n).Nodup) :
    ((structFields n).map fun f => StructSite.field f.key).Nodup := by
  have hnames : ((structFields n).map fun f => f.key).map fieldName = fieldNames n := by
    simp [fieldNames, Function.comp_def]
  have hkeys : ((structFields n).map fun f => f.key).Nodup := List.Nodup.of_map fieldName (hnames ▸ h)
  have hsites := hkeys.map fun key key' (h : StructSite.field key = .field key') => by simpa using h
  rwa [List.map_map] at hsites

theorem slots_structPlan (r : Renderer) (presets : Stack (StructPreset (StateM W))) (n : ModelNode) :
    (structPlan r presets n).slots =
      ((structFields n).flatMap fun f =>
        (presets.stagesWith (StructPreset.has (.field f.key))).map (StructSite.field f.key, ·)) ++
      ((presets.stagesWith (StructPreset.has .additionalContent)).map (.additionalContent, ·) ++
        (presets.stagesWith (StructPreset.has .self)).map (.self, ·)) := by
  simp [Plan.slots, structPlan, List.flatMap_map]

theorem steps_field (r : Renderer) (presets : Stack (StructPreset (StateM W))) (n : ModelNode)
    (type : String) (f : Field) {log : List (Call StructSite)}
    (fresh : lastText? log (.field f.key) = none) :
    Steps (content ((structPlan r presets n).seed type)) ((structPlan r presets n).failure type)
      ((presets.stagesWith (StructPreset.has (.field f.key))).map (.field f.key, ·)) log
      (presets.run .field type (·.field.map (· ⟨n, r, f⟩)) "")
      ((presets.mapStages StructPreset.logged).run .field type (·.field.map (· ⟨n, r, f⟩)) "")
      (Reaches ((structPlan r presets n).seed type) (.field f.key) log) := by
  have hseed : content ((structPlan r presets n).seed type) log (.field f.key) = "" := by
    rw [content, fresh]
    rfl
  refine (structPlan r presets n).steps_run (fun p => ?_) (fun stage p => ?_) hseed
  · simp [StructPreset.has]
  · simp [StructPreset.logged, Function.comp_def]

/-- The sites of a struct come to the lines of its body, its additional content and its text. -/
theorem steps_renderStruct (r : Renderer) (presets : Stack (StructPreset (StateM W)))
    (h : NamedApart n (fun _ => fieldNames n) type) :
    Steps (content ((structPlan r presets n).seed type)) ((structPlan r presets n).failure type)
      (structPlan r presets n).slots [] (renderStruct r presets n)
      (renderStruct r (presets.mapStages StructPreset.logged) n)
      fun log text => content ((structPlan r presets n).seed type) log .self = text := by
  have hshape := structShape_eq_ok_iff_namedApart.2 ⟨h, rfl⟩
  rw [slots_structPlan]
  simp only [renderStruct, hshape, liftExcept, pure_bind]
  refine .bind (.mapM (nodup_fieldSites h.2.2) (fun _ _ _ => rfl)
    (fun f _ log => steps_field r presets n type f) fun _ _ => rfl) fun log lines hlines => ?_
  obtain ⟨rfl, helsewhere⟩ := hlines
  have hadditional : content ((structPlan r presets n).seed type) log .additionalContent = "" := by
    rw [content, helsewhere _ (by simp)]
    rfl
  refine .bind ((structPlan r presets n).steps_run (fun p => ?_) (fun stage p => ?_) hadditional)
    fun log' additional hreaches => ?_
  · simp [StructPreset.has]
  · simp [StructPreset.logged, Function.comp_def]
  -- The additional content leaves the lines as they are, so the declaration receives the body of both.
  have hbody : content ((structPlan r presets n).seed type) log' .self = structBody r
      ((structFields n).map fun f => content ((structPlan r presets n).seed type) log (.field f.key))
      additional := by
    have hself : lastText? log' .self = none := by
      rw [hreaches.elsewhere _ (by simp), helsewhere _ (by simp)]
      rfl
    have hlines : ∀ f ∈ structFields n, (lastText? log' (.field f.key)).getD "" =
        content ((structPlan r presets n).seed type) log (.field f.key) := by
      intro f _
      rw [hreaches.elsewhere _ (by simp)]
      rfl
    rw [content, hself, ← hreaches.content_eq, ← List.map_congr_left hlines]
    rfl
  refine .mono ((structPlan r presets n).steps_run (fun p => ?_) (fun stage p => ?_) hbody)
    fun _ _ hreaches => hreaches.content_eq
  · simp [StructPreset.has]
  · simp [StructPreset.logged, Function.comp_def]

theorem not_hookFailed_structShape (n : ModelNode) : ¬ HookFailed (structShape n) := by
  refine not_hookFailed_bind (not_hookFailed_modelTypeName n) fun type => ?_
  dsimp only
  split <;> simp [HookFailed]

end

/-! ### Enums -/

section

variable {W : Type} {n : ModelNode} {type : String}

/-- The names of the constants of an enum of a type name. -/
def constantNames (n : ModelNode) (type : String) : List String :=
  (n.enumValues.getD []).map (constantName type)

theorem enumShape_eq_ok_iff_namedApart {constants : List (String × Value)} :
    enumShape n = .ok (type, constants) ↔
      NamedApart n (constantNames n) type ∧
        constants = (n.enumValues.getD []).map fun v => (constantName type v, v) := by
  rw [enumShape_eq_ok_iff, modelTypeName_eq_ok_iff]
  constructor
  · rintro ⟨⟨id, hid, htype, hne⟩, hnodup, hconstants⟩
    exact ⟨⟨⟨id, hid, htype⟩, hne, hnodup⟩, hconstants⟩
  · rintro ⟨⟨⟨id, hid, htype⟩, hne, hnodup⟩, hconstants⟩
    exact ⟨⟨id, hid, htype, hne⟩, hnodup, hconstants⟩

theorem not_hookFailed_enumShape (n : ModelNode) : ¬ HookFailed (enumShape n) := by
  refine not_hookFailed_bind (not_hookFailed_modelTypeName n) fun type => ?_
  dsimp only
  split <;> simp [HookFailed]

/-- The constants with their positions have the sites of the plan. -/
theorem itemSites {α : Type} (l : List α) :
    (l.zipIdx.map fun c => EnumSite.item c.2) = (List.range l.length).map .item := by
  have hindices : l.zipIdx.map Prod.snd = List.range l.length := by
    rw [List.zipIdx_map_snd, List.range_eq_range']
  rw [← hindices, List.map_map]
  rfl

theorem nodup_itemSites {α : Type} (l : List α) : (l.zipIdx.map fun c => EnumSite.item c.2).Nodup := by
  rw [itemSites]
  exact List.nodup_range.map fun i j (h : EnumSite.item i = .item j) => by simpa using h

theorem slots_enumPlan (r : Renderer) (presets : Stack (EnumPreset (StateM W))) {n : ModelNode}
    {constants : List (String × Value)} (h : constants.length = (n.enumValues.getD []).length) :
    (enumPlan r presets n).slots =
      (constants.zipIdx.flatMap fun c =>
        (presets.stagesWith (EnumPreset.has (.item c.2))).map (EnumSite.item c.2, ·)) ++
      (presets.stagesWith (EnumPreset.has .self)).map (.self, ·) := by
  simp [Plan.slots, enumPlan, ← h, ← itemSites, List.flatMap_map]

theorem steps_item (r : Renderer) (presets : Stack (EnumPreset (StateM W))) (n : ModelNode)
    (type : String) (c : (String × Value) × Nat) {log : List (Call EnumSite)}
    (fresh : lastText? log (.item c.2) = none) :
    Steps (content ((enumPlan r presets n).seed type)) ((enumPlan r presets n).failure type)
      ((presets.stagesWith (EnumPreset.has (.item c.2))).map (.item c.2, ·)) log
      (presets.run .item type (·.item.map (· ⟨n, r, type, backingType n, c.1.1, c.1.2, c.2⟩)) "")
      ((presets.mapStages EnumPreset.logged).run .item type
        (·.item.map (· ⟨n, r, type, backingType n, c.1.1, c.1.2, c.2⟩)) "")
      (Reaches ((enumPlan r presets n).seed type) (.item c.2) log) := by
  have hseed : content ((enumPlan r presets n).seed type) log (.item c.2) = "" := by
    rw [content, fresh]
    rfl
  refine (enumPlan r presets n).steps_run (fun p => ?_) (fun stage p => ?_) hseed
  · simp [EnumPreset.has]
  · simp [EnumPreset.logged, Function.comp_def]

/-- The sites of an enum come to its items and its text. -/
theorem steps_renderEnum (r : Renderer) (presets : Stack (EnumPreset (StateM W)))
    (h : NamedApart n (constantNames n) type) :
    Steps (content ((enumPlan r presets n).seed type)) ((enumPlan r presets n).failure type)
      (enumPlan r presets n).slots [] (renderEnum r presets n)
      (renderEnum r (presets.mapStages EnumPreset.logged) n)
      fun log text => content ((enumPlan r presets n).seed type) log .self = text := by
  have hshape := enumShape_eq_ok_iff_namedApart.2 ⟨h, rfl⟩
  rw [slots_enumPlan r presets (List.length_map (fun v => (constantName type v, v)))]
  simp only [renderEnum, hshape, liftExcept, pure_bind]
  refine .bind (.mapM (nodup_itemSites _) (fun _ _ _ => rfl)
    (fun c _ log => steps_item r presets n type c) fun _ _ => rfl) fun log items hitems => ?_
  obtain ⟨rfl, helsewhere⟩ := hitems
  have hdeclaration : content ((enumPlan r presets n).seed type) log .self =
      enumDeclaration r type (backingType n) := by
    rw [content, helsewhere _ (by simp)]
    rfl
  refine .mono ((enumPlan r presets n).steps_run (fun p => ?_) (fun stage p => ?_) hdeclaration)
    fun _ _ hreaches => hreaches.content_eq
  · simp [EnumPreset.has]
  · simp [EnumPreset.logged, Function.comp_def]

end

/-! ### Main result -/

/-- Whatever its hooks do, the rendering of a struct or an enum obeys the protocol, and keeping account of
the hooks changes neither its result nor its effect. -/
theorem hook_protocol {W : Type} (r : Renderer) (n : ModelNode) (w : W)
    (structs : Stack (StructPreset (StateM W))) (enums : Stack (EnumPreset (StateM W))) :
    (∃ result w' calls,
      Traces (renderStruct r structs n) (renderStruct r (structs.mapStages StructPreset.logged) n) w []
        result w' calls ∧
      (structPlan r structs n).Obeyed n (fun _ => fieldNames n) w w' calls result) ∧
    ∃ result w' calls,
      Traces (renderEnum r enums n) (renderEnum r (enums.mapStages EnumPreset.logged) n) w []
        result w' calls ∧
      (enumPlan r enums n).Obeyed n (constantNames n) w w' calls result := by
  constructor
  · refine (structPlan r structs n).obeyed_of_steps (fun type => ?_) (not_hookFailed_structShape n)
      (fun e he w => ?_) (fun _ => steps_renderStruct r structs) w
    · simp [structShape_eq_ok_iff_namedApart]
    · simp only [renderStruct, he, liftExcept]
      exact .bind_error _ _ (.throw e w [])
  · refine (enumPlan r enums n).obeyed_of_steps (fun type => ?_) (not_hookFailed_enumShape n)
      (fun e he w => ?_) (fun _ => steps_renderEnum r enums) w
    · simp [enumShape_eq_ok_iff_namedApart]
    · simp only [renderEnum, he, liftExcept]
      exact .bind_error _ _ (.throw e w [])

-- The failing stage is the third of the stack, although the second has no hook.
example : ((renderStruct ⟨{}, .empty⟩ (⟨.default, [{}, { self := some fun _ _ => throw "no" }]⟩ :
    Stack (StructPreset (StateM Unit))) { id := some "pet" }).run.run' ()).run =
      .error (.hookFailure "Pet" .self 2 "no") := by
  decide +kernel

end SchemaGo.Render
