import SchemaGo.Code.Builder
import SchemaGo.Proofs.Text.Lines

/-! What indenting and the builder make of lines. A text whose last line is closed keeps its lines when
it is indented, each behind one unit of indentation and without a carriage return at its end. At depth
zero the builder writes the lines of a text as they are, and at depth one it writes the indented text. -/

namespace SchemaGo.Code

open Text (Closed OneLine closed_getLast ended flatMap_lineList lineList lineList_intercalate
  lineList_joined lineList_newline lineList_oneLine lines lines_eq_nil_iff newline_not_mem_lineList
  withoutReturn)

namespace Indent

theorem oneLine_unit (i : Indent) : OneLine i.unit.toList := by
  cases i with
  | spaces width =>
    intro c hc
    obtain ⟨-, rfl⟩ := List.mem_replicate.1 (by simpa [unit] using hc)
    decide
  | tab => decide

theorem toList_applyLine (i : Indent) (l : List Char) :
    (i.applyLine (String.ofList l)).toList = if l = [] then [] else i.unit.toList ++ l := by
  unfold applyLine
  by_cases h : l = []
  · simp [h]
  · simp [h, String.toList_append]

theorem newline_not_mem_applyLine (i : Indent) {l : List Char} (h : '\n' ∉ l) :
    '\n' ∉ (i.applyLine (String.ofList l)).toList := by
  rw [toList_applyLine]
  split
  · exact List.not_mem_nil
  · intro hmem
    rcases List.mem_append.1 hmem with hunit | hl
    · exact (i.oneLine_unit _ hunit).1 rfl
    · exact h hl

/-- The lines of an indented text. -/
theorem lineList_apply (i : Indent) {s : String} (h : Closed s.toList) :
    lineList (i.apply s).toList =
      (lineList s.toList).map fun l => withoutReturn (i.applyLine (String.ofList l)).toList := by
  have happly : (i.apply s).toList =
      ['\n'].intercalate ((lineList s.toList).map fun l => (i.applyLine (String.ofList l)).toList) := by
    simp [apply, lines, Function.comp_def]
  have hlast : ∀ a, ((lineList s.toList).map fun l => (i.applyLine (String.ofList l)).toList).getLast? =
      some a → Closed a := by
    obtain ⟨l, hl, hclosed⟩ := closed_getLast h
    intro a ha
    rw [List.getLast?_map, hl, Option.map_some, Option.some.injEq] at ha
    obtain ⟨b, c, rfl, -⟩ := id hclosed
    rw [← ha, toList_applyLine, if_neg (by simp)]
    exact hclosed.append _
  rw [happly, lineList_intercalate hlast, List.flatMap_map, List.map_eq_flatMap]
  exact List.flatMap_congr fun l hl =>
    lineList_newline (i.newline_not_mem_applyLine (newline_not_mem_lineList _ l hl))

end Indent

namespace Builder

@[simp] theorem depth_line (b : Builder) (s : String) : (b.line s).depth = b.depth :=
  rfl

@[simp] theorem depth_text (b : Builder) (s : String) : (b.text s).depth = b.depth := by
  unfold text
  induction lines s generalizing b with
  | nil => rfl
  | cons l r ih =>
    rw [List.foldl_cons, ih]
    split <;> rfl

@[simp] theorem depth_comment (b : Builder) (s : String) : (b.comment s).depth = b.depth := by
  unfold comment
  induction lines s generalizing b with
  | nil => rfl
  | cons l r ih => rw [List.foldl_cons, ih, depth_line]

/-- A line of a text behind the padding, which an empty line has none of. -/
def padded (b : Builder) (l : String) : String :=
  (if l.isEmpty then "" else b.pad ++ l) ++ "\n"

theorem text_eq (b : Builder) (s : String) :
    b.text s = { b with out := b.out ++ String.join ((lines s).map b.padded) } := by
  unfold text
  induction lines s generalizing b with
  | nil => simp
  | cons l r ih =>
    have hstep : (if l.isEmpty then b.blank else b.line l) = { b with out := b.out ++ b.padded l } := by
      unfold padded
      split <;> simp_all [blank, line, String.append_assoc]
    rw [List.foldl_cons, hstep, ih, List.map_cons, String.join_cons, ← String.append_assoc]
    rfl

theorem trimmed_line {b : Builder} (hb : b.depth = 0) {l : String} (hl : Closed l.toList) :
    (b.line l).trimmed = b.out ++ l := by
  obtain ⟨a, c, hac, hc, -⟩ := hl
  rw [← String.toList_inj]
  simp [trimmed, line, pad, hb, hac, hc]

/-! ### Texts of one line -/

theorem lines_oneLine {s : String} (h : OneLine s.toList) (hne : s ≠ "") : lines s = [s] := by
  rw [lines, lineList_oneLine h (by simpa using hne)]
  simp

theorem text_oneLine (b : Builder) {s : String} (h : OneLine s.toList) (hne : s ≠ "") :
    b.text s = b.line s := by
  rw [text, lines_oneLine h hne]
  simp [hne]

theorem comment_oneLine (b : Builder) {s : String} (h : OneLine s.toList) (hne : s ≠ "") :
    b.comment s = b.line ("// " ++ s) := by
  rw [comment, lines_oneLine h hne]
  rfl

/-- Lines that are joined are added as they are. -/
theorem text_joined (b : Builder) {L : List String} (h : ∀ l ∈ L, OneLine l.toList ∧ l ≠ "") :
    b.text ("\n".intercalate L) =
      { b with out := b.out ++ String.join (L.map fun l => b.pad ++ l ++ "\n") } := by
  have hlines : lines ("\n".intercalate L) = L := by
    have hjoined := lineList_joined (L := L.map String.toList) fun l hl => by
      obtain ⟨s, hs, rfl⟩ := List.mem_map.1 hl
      exact ⟨(h s hs).1, by simpa using (h s hs).2⟩
    rw [lines, String.toList_intercalate, show "\n".toList = ['\n'] from rfl, hjoined]
    simp [Function.comp_def]
  rw [text_eq, hlines]
  have hpadded : L.map b.padded = L.map fun l => b.pad ++ l ++ "\n" :=
    List.map_congr_left fun l hl => by simp [padded, (h l hl).2]
  rw [hpadded]

theorem each_line {α : Type} (b : Builder) (items : List α) (f : α → String) :
    b.each items (fun b a => b.line (f a)) =
      { b with out := b.out ++ String.join (items.map fun a => b.pad ++ f a ++ "\n") } := by
  unfold each
  induction items generalizing b with
  | nil => simp
  | cons a r ih =>
    rw [List.foldl_cons, ih, List.map_cons, String.join_cons]
    simp [line, pad, String.append_assoc]

/-- Texts of one line each are added as lines. -/
theorem each_text (b : Builder) {lines : List String} (h : ∀ l ∈ lines, OneLine l.toList ∧ l ≠ "") :
    b.each lines text = b.each lines line :=
  List.foldl_ext _ _ b fun b l hl => text_oneLine b (h l hl).1 (h l hl).2

/-- A block of lines at depth zero, as the last part of a text. -/
theorem trimmed_block_line {b : Builder} (hb : b.depth = 0) (opening : String) {closing : String}
    (hclosing : Closed closing.toList) {α : Type} (items : List α) (f : α → String) :
    (b.block opening closing (·.each items fun b a => b.line (f a))).trimmed =
      b.out ++ opening ++ "\n" ++ String.join (items.map fun a => b.indent.unit ++ f a ++ "\n") ++
        closing := by
  rw [block, each_line, trimmed_line (by simp [shallower, deeper, hb]) hclosing]
  simp [shallower, deeper, line, pad, hb]

/-- The same of texts of one line each. -/
theorem trimmed_block {b : Builder} (hb : b.depth = 0) (opening : String) {closing : String}
    (hclosing : Closed closing.toList) {lines : List String}
    (h : ∀ l ∈ lines, OneLine l.toList ∧ l ≠ "") :
    (b.block opening closing (·.each lines text)).trimmed =
      b.out ++ opening ++ "\n" ++ String.join (lines.map fun l => b.indent.unit ++ l ++ "\n") ++
        closing := by
  have hblock : b.block opening closing (·.each lines text) =
      b.block opening closing (·.each lines fun b l => b.line l) := by
    rw [block, block, each_text _ h]
  rw [hblock, trimmed_block_line hb opening hclosing lines fun l => l]

/-! ### Texts and depth -/

/-- At depth zero a text adds its lines. -/
theorem toList_text {b : Builder} (hb : b.depth = 0) (s : String) :
    (b.text s).out.toList = b.out.toList ++ (lineList s.toList).flatMap (· ++ ['\n']) := by
  have hpadded : ∀ l, (b.padded l).toList = l.toList ++ ['\n'] := by
    intro l
    unfold padded pad
    split <;> simp_all
  simp [text_eq, lines, hpadded, List.flatMap_map, String.toList_join]

/-- At depth zero a text without carriage returns is added as it is, with a newline at its end. -/
theorem toList_text_ended {b : Builder} (hb : b.depth = 0) {s : String} (h : '\r' ∉ s.toList) :
    (b.text s).out.toList = b.out.toList ++ ended s.toList := by
  rw [toList_text hb, flatMap_lineList h]

/-! ### Texts that are indented -/

theorem join_ended {L : List String} (h : L ≠ []) :
    String.join (L.map (· ++ "\n")) = "\n".intercalate L ++ "\n" := by
  induction L with
  | nil => exact absurd rfl h
  | cons l r ih =>
    cases r with
    | nil => simp
    | cons m r =>
      rw [List.map_cons, String.join_cons, ih (by simp), String.intercalate_cons_cons,
        String.append_assoc, String.append_assoc, String.append_assoc]

/-- At depth one a line is padded with one unit. -/
theorem padded_eq_applyLine {b : Builder} (hb : b.depth = 1) (l : String) :
    b.padded l = b.indent.applyLine l ++ "\n" := by
  have hpad : b.pad = b.indent.unit := by simp [pad, hb]
  rw [padded, Indent.applyLine, hpad]

/-- At depth one a text adds what indenting makes of it, with a newline behind unless there is nothing. -/
theorem out_text_eq_apply {b : Builder} (hb : b.depth = 1) (s : String) :
    (b.text s).out = b.out ++ if s = "" then "" else b.indent.apply s ++ "\n" := by
  have hpadded : (lines s).map b.padded = ((lines s).map b.indent.applyLine).map (· ++ "\n") := by
    rw [List.map_map]
    exact List.map_congr_left fun l _ => padded_eq_applyLine hb l
  rw [text_eq, hpadded]
  split
  · next hempty => rw [lines_eq_nil_iff.2 hempty]; rfl
  · next hne =>
    have hlines : (lines s).map b.indent.applyLine ≠ [] := by simpa [lines_eq_nil_iff] using hne
    rw [join_ended hlines, Indent.apply]

/-- The two ways to indent a text agree. -/
theorem indented_text_eq_apply (i : Indent) (s : String) :
    ((start i).deeper.text s).build = if s = "" then "" else i.apply s ++ "\n" := by
  have hout := out_text_eq_apply (b := (start i).deeper) rfl s
  exact hout.trans (String.empty_append)

end Builder

end SchemaGo.Code
