import Mathlib.Data.List.Infix
import SchemaGo.Code.Program
import SchemaGo.Proofs.Code.Builder

/-! Programs of builder steps that are balanced: at top level and in the body of every block the
indentations are closed that were opened there, and no others. Such a program ends at the depth that it
starts at, and it writes its lines in order, each behind one unit for every block around it and for every
indentation that is open in front of it. So the two lines of a block stand behind the same indentation. -/

namespace SchemaGo.Code

/-! ### Levels -/

namespace Step

/-- How far a step moves the level of the steps behind it. A block ends at the level it begins at. -/
def climb : Step → Int
  | .deeper => 1
  | .shallower => -1
  | _ => 0

/-- How far steps move it one after the other. -/
def climbAll : List Step → Int
  | [] => 0
  | s :: steps => s.climb + climbAll steps

/-- Whatever the level around them, the steps do not go below it in between, and they end at it. -/
structure Level (steps : List Step) : Prop where
  above : ∀ front, front <+: steps → 0 ≤ climbAll front
  closed : climbAll steps = 0

instance (steps : List Step) : Decidable (Level steps) :=
  decidable_of_iff ((∀ front ∈ steps.inits, 0 ≤ climbAll front) ∧ climbAll steps = 0)
    ⟨fun ⟨habove, hclosed⟩ => ⟨fun front h => habove front (List.mem_inits _ _ |>.2 h), hclosed⟩,
      fun h => ⟨fun front hfront => h.above front (List.mem_inits _ _ |>.1 hfront), h.closed⟩⟩

/-- The steps are level, and so are the bodies of all blocks in them. -/
inductive Balanced : List Step → Prop where
  | intro {steps : List Step} (level : Level steps)
      (bodies : ∀ opening closing body, .block opening closing body ∈ steps → Balanced body) :
      Balanced steps

/-- Induction over the steps of a program, with the bodies of its blocks. -/
@[elab_as_elim]
theorem programInduction {P : List Step → Prop} (nil : P [])
    (cons : ∀ s steps, (∀ opening closing body, s = .block opening closing body → P body) → P steps →
      P (s :: steps)) (steps : List Step) : P steps :=
  match steps with
  | [] => nil
  | s :: steps =>
    cons s steps (fun opening closing body _h => programInduction nil cons body)
      (programInduction nil cons steps)
termination_by sizeOf steps
decreasing_by
  · subst _h
    simp only [List.cons.sizeOf_spec, Step.block.sizeOf_spec]
    omega
  · simp only [List.cons.sizeOf_spec]
    omega

end Step

/-! ### Lines -/

/-- A line that is written, with the number of units in front of it. -/
structure Line where
  level : Nat
  text : String
  deriving DecidableEq

/-- A line of its newline only. -/
def Line.empty : Line :=
  ⟨0, ""⟩

def Line.render (i : Indent) (l : Line) : String :=
  String.join (List.replicate l.level i.unit) ++ l.text ++ "\n"

namespace Step

mutual

/-- The lines of a step with `level` blocks and open indentations around it. -/
def written (level : Nat) : Step → List Line
  | .line s => [⟨level, s⟩]
  | .text s => (Text.lines s).map fun l => if l.isEmpty then .empty else ⟨level, l⟩
  | .comment s => (Text.lines s).map fun l => ⟨level, "// " ++ l⟩
  | .blank => [.empty]
  | .deeper => []
  | .shallower => []
  | .block opening closing body =>
    ⟨level, opening⟩ :: (writtenAll (level + 1) body ++ [⟨level, closing⟩])
  | .each items => items.map fun l => ⟨level, l⟩

/-- The lines of steps that begin at `level`. -/
def writtenAll (level : Int) : List Step → List Line
  | [] => []
  | s :: steps => written level.toNat s ++ writtenAll (level + s.climb) steps

end

theorem writtenAll_append (level : Int) (front behind : List Step) :
    writtenAll level (front ++ behind) =
      writtenAll level front ++ writtenAll (level + climbAll front) behind := by
  induction front generalizing level with
  | nil => simp [writtenAll, climbAll]
  | cons s front ih =>
    rw [List.cons_append, writtenAll, writtenAll, ih, climbAll, List.append_assoc, Int.add_assoc]

/-- The step stands somewhere in the steps, with `level` levels around it: those around the steps, which
are `base`, one for each block that it is in, and one for each indentation that is open in front of it in
the steps or in the body of such a block. -/
inductive StandsAt (s : Step) : Int → Int → List Step → Prop where
  | here (base : Int) (front behind : List Step) :
      StandsAt s base (base + climbAll front) (front ++ s :: behind)
  | inside {base level : Int} {front : List Step} (opening closing : String) {body : List Step}
      (behind : List Step) (h : StandsAt s (base + climbAll front + 1) level body) :
      StandsAt s base level (front ++ .block opening closing body :: behind)

/-- Wherever a step stands in balanced steps, its lines are among those of the steps, at its level. -/
theorem Balanced.exists_written {steps : List Step} (h : Balanced steps) {s : Step} {base level : Int}
    (hbase : 0 ≤ base) (hs : StandsAt s base level steps) :
    0 ≤ level ∧ ∃ before after, writtenAll base steps = before ++ s.written level.toNat ++ after := by
  induction hs with
  | here base front behind =>
    obtain ⟨hlevel, -⟩ := h
    have hfront := hlevel.above front (List.prefix_append _ _)
    refine ⟨by omega, writtenAll base front, writtenAll (base + climbAll front + s.climb) behind, ?_⟩
    rw [writtenAll_append, writtenAll, List.append_assoc]
  | @inside base level front opening closing body behind _ ih =>
    obtain ⟨hlevel, hbodies⟩ := h
    have hfront := hlevel.above front (List.prefix_append _ _)
    obtain ⟨hnonneg, before, after, heq⟩ :=
      ih (hbodies opening closing body (by simp)) (by omega)
    have hbody : ((base + climbAll front).toNat : Int) + 1 = base + climbAll front + 1 := by omega
    refine ⟨hnonneg, writtenAll base front ++ ⟨(base + climbAll front).toNat, opening⟩ :: before,
      after ++ ⟨(base + climbAll front).toNat, closing⟩ ::
        writtenAll (base + climbAll front + climb (.block opening closing body)) behind, ?_⟩
    rw [writtenAll_append, writtenAll, written, hbody, heq]
    simp

end Step

/-! ### Builders that have written lines -/

namespace Builder

/-- The builder with further lines, at another depth. -/
def wrote (b : Builder) (lines : List Line) (depth : Nat) : Builder :=
  { b with depth, out := b.out ++ String.join (lines.map (Line.render b.indent)) }

theorem wrote_wrote (b : Builder) (lines later : List Line) (depth depth' : Nat) :
    (b.wrote lines depth).wrote later depth' = b.wrote (lines ++ later) depth' := by
  simp [wrote, String.append_assoc]

theorem line_eq_wrote (b : Builder) (s : String) : b.line s = b.wrote [⟨b.depth, s⟩] b.depth := by
  simp [line, wrote, Line.render, pad, String.append_assoc]

theorem blank_eq_wrote (b : Builder) : b.blank = b.wrote [.empty] b.depth := by
  simp [blank, wrote, Line.render, Line.empty]

theorem text_eq_wrote (b : Builder) (s : String) :
    b.text s =
      b.wrote ((Text.lines s).map fun l => if l.isEmpty then .empty else ⟨b.depth, l⟩) b.depth := by
  have hpadded : ∀ l : String, b.padded l =
      Line.render b.indent (if l.isEmpty then .empty else ⟨b.depth, l⟩) := by
    intro l
    unfold padded
    split <;> simp [Line.render, Line.empty, pad]
  rw [text_eq, wrote, List.map_map]
  exact congrArg (fun lines => { b with out := b.out ++ String.join lines })
    (List.map_congr_left fun l _ => hpadded l)

/-- Lines that are written one after the other. -/
theorem foldl_line_eq_wrote {α : Type} (b : Builder) (items : List α) (f : α → String) :
    items.foldl (fun b a => b.line (f a)) b = b.wrote (items.map fun a => ⟨b.depth, f a⟩) b.depth := by
  have heach := each_line b items f
  rw [each] at heach
  rw [heach, wrote, List.map_map]
  rfl

end Builder

/-! ### Runs -/

namespace Step

theorem runAll_append (b : Builder) (steps later : List Step) :
    runAll b (steps ++ later) = runAll (runAll b steps) later := by
  induction steps generalizing b with
  | nil => simp [runAll]
  | cons s steps ih => rw [List.cons_append, runAll, runAll, ih]

/-- A step writes its lines at the depth and moves the depth, if the body of a block does so with its
lines and ends at the depth where it starts. -/
theorem run_eq {b : Builder} {s : Step} (hdepth : 0 ≤ (b.depth : Int) + s.climb)
    (hbody : ∀ opening closing body, s = .block opening closing body →
      ∀ b : Builder, runAll b body = b.wrote (writtenAll b.depth body) b.depth) :
    run b s = b.wrote (s.written b.depth) ((b.depth : Int) + s.climb).toNat := by
  cases s with
  | line s => simpa [run, written, climb] using b.line_eq_wrote s
  | text s => simpa [run, written, climb] using b.text_eq_wrote s
  | comment s =>
    simpa [run, written, climb, Builder.comment] using b.foldl_line_eq_wrote (Text.lines s) ("// " ++ ·)
  | blank => simpa [run, written, climb] using b.blank_eq_wrote
  | deeper =>
    have hdeeper : ((b.depth : Int) + 1).toNat = b.depth + 1 := by omega
    simp [run, written, climb, hdeeper, Builder.deeper, Builder.wrote]
  | shallower =>
    -- above level zero a depth is taken down as the level is
    have hshallower : ((b.depth : Int) + -1).toNat = b.depth - 1 := by omega
    simp [run, written, climb, hshallower, Builder.shallower, Builder.wrote]
  | block opening closing body =>
    have hinner := hbody opening closing body rfl (b.line opening).deeper
    have hopening : (b.line opening).deeper = b.wrote [⟨b.depth, opening⟩] (b.depth + 1) := by
      rw [b.line_eq_wrote]
      rfl
    rw [run, Builder.block, hinner, Builder.line_eq_wrote, hopening]
    simp only [Builder.shallower, Builder.wrote, written, climb]
    simp [String.append_assoc]
  | each items => simpa [run, written, climb, Builder.each] using b.foldl_line_eq_wrote items id

/-- Steps that do not go below depth zero write their lines and move the depth. -/
theorem runAll_eq {steps : List Step}
    (bodies : ∀ opening closing body, .block opening closing body ∈ steps → Balanced body)
    {b : Builder} (above : ∀ front, front <+: steps → 0 ≤ (b.depth : Int) + climbAll front) :
    runAll b steps =
      b.wrote (writtenAll b.depth steps) ((b.depth : Int) + climbAll steps).toNat := by
  induction steps using programInduction generalizing b with
  | nil => simp [runAll, writtenAll, climbAll, Builder.wrote]
  | cons s steps ihbody ih =>
    have hfirst : 0 ≤ (b.depth : Int) + s.climb := by simpa [climbAll] using above [s] (by simp)
    have hstep : run b s = b.wrote (s.written b.depth) ((b.depth : Int) + s.climb).toNat := by
      refine run_eq hfirst fun opening closing body hs b => ?_
      obtain ⟨hlevel, hbodies⟩ := bodies opening closing body (by simp [hs])
      -- a body does not go below the depth it starts at, so it stays above zero wherever it is run
      have hbody := ihbody opening closing body hs hbodies (b := b) fun front hfront => by
        have := hlevel.above front hfront
        omega
      simpa [hlevel.closed] using hbody
    have hdepth : ((run b s).depth : Int) = b.depth + s.climb := by
      rw [hstep]
      exact Int.toNat_of_nonneg hfirst
    have hrest := ih (fun opening closing body h => bodies opening closing body (by simp [h]))
      (b := run b s) fun front hfront => by
        have := above (s :: front) (List.cons_prefix_cons.2 ⟨rfl, hfront⟩)
        rw [climbAll] at this
        omega
    rw [runAll, hrest, hdepth, hstep, Builder.wrote_wrote, writtenAll, Int.toNat_natCast, climbAll,
      Int.add_assoc]

theorem Balanced.runAll_eq {steps : List Step} (h : Balanced steps) (b : Builder) :
    runAll b steps = b.wrote (writtenAll b.depth steps) b.depth := by
  obtain ⟨hlevel, hbodies⟩ := h
  have hrun := Step.runAll_eq hbodies (b := b) fun front hfront => by
    have := hlevel.above front hfront
    omega
  simpa [hlevel.closed] using hrun

/-- One program for each item is one program. -/
theorem runAll_flatMap {α : Type} (b : Builder) (items : List α) (f : α → List Step) :
    runAll b (items.flatMap f) = b.each items fun b a => runAll b (f a) := by
  unfold Builder.each
  induction items generalizing b with
  | nil => simp [runAll]
  | cons a items ih => rw [List.flatMap_cons, runAll_append, ih, List.foldl_cons]

/-- What a balanced program writes, and where it ends. -/
structure Writes (b : Builder) (steps : List Step) : Prop where
  depth : (runAll b steps).depth = b.depth
  text : (runAll b steps).build =
    b.build ++ String.join ((writtenAll b.depth steps).map (Line.render b.indent))
  /-- The lines of each step, wherever it stands. -/
  lines : ∀ s level, StandsAt s b.depth level steps → 0 ≤ level ∧
    ∃ before after, writtenAll b.depth steps = before ++ s.written level.toNat ++ after
  /-- The two lines of each block, wherever it stands, have one indentation. -/
  blocks : ∀ opening closing body level, StandsAt (.block opening closing body) b.depth level steps →
    ∃ before after, writtenAll b.depth steps = before ++
      ⟨level.toNat, opening⟩ :: (writtenAll (level + 1) body ++ ⟨level.toNat, closing⟩ :: after)
  /-- The program may be given item by item. -/
  each : ∀ (α : Type) (items : List α) (f : α → List Step), steps = items.flatMap f →
    runAll b steps = b.each items fun b a => runAll b (f a)

theorem balanced_program_writes (b : Builder) {steps : List Step} (h : Balanced steps) :
    Writes b steps where
  depth := by
    rw [h.runAll_eq]
    rfl
  text := by
    rw [h.runAll_eq]
    rfl
  lines s level hs := h.exists_written (Int.natCast_nonneg _) hs
  blocks opening closing body level hs := by
    obtain ⟨hlevel, before, after, heq⟩ := h.exists_written (Int.natCast_nonneg _) hs
    refine ⟨before, after, ?_⟩
    rw [heq, written, Int.toNat_of_nonneg hlevel]
    simp
  each α items f hsteps := by
    rw [hsteps]
    exact runAll_flatMap b items f

/-- A block behind an indentation, and an indentation in its body. -/
def nestedSteps : List Step :=
  [.line "a (", .deeper, .text "b\n\nc",
    .block "d (" ")" [.deeper, .each ["e", "f"], .shallower, .comment "g"], .blank, .shallower, .line ")"]

theorem balanced_program_writes_nested :
    Balanced nestedSteps ∧ (runAll (.start .tab) nestedSteps).build =
      "a (\n\tb\n\n\tc\n\td (\n\t\t\te\n\t\t\tf\n\t\t// g\n\t)\n\n)\n" := by
  have hbalanced : Balanced nestedSteps := by
    refine .intro (by decide) fun opening closing body h => ?_
    obtain ⟨-, -, rfl⟩ : opening = "d (" ∧ closing = ")" ∧
        body = [.deeper, .each ["e", "f"], .shallower, .comment "g"] := by
      simpa [nestedSteps] using h
    exact .intro (by decide) (by simp)
  exact ⟨hbalanced, (balanced_program_writes (.start .tab) hbalanced).text.trans (by decide +kernel)⟩

end Step

end SchemaGo.Code
