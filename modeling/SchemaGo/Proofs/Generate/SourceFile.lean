import SchemaGo.Generate.Generator
import SchemaGo.Proofs.Code.Builder

/-! The text of a source file. The imports and the text of a model go through the builder line by line, and
the imports twice. A text without carriage returns comes out as it went in, with its blank lines, the blanks
in front of its lines and the newlines at its end, except that a last line without a newline gets one. -/

namespace SchemaGo.Generate

open Code (Builder Indent)
open Text (Closed ended)

/-- The imports of a file, one line each and an empty line behind them, or nothing if there are none. -/
def importLines (unit : String) (dependencies : List String) : String :=
  if dependencies = [] then ""
  else "import (\n" ++ String.join (dependencies.map fun d => unit ++ "\"" ++ d ++ "\"\n") ++ ")\n\n"

/-- A text whose last line is ended. -/
def endedText (text : String) : String :=
  if text = "" ∨ text.toList.getLast? = some '\n' then text else text ++ "\n"

/-- The package clause and an empty line, the imports and the text. -/
def fileText (package unit : String) (dependencies : List String) (text : String) : String :=
  "package " ++ package ++ "\n\n" ++ importLines unit dependencies ++ endedText text

theorem toList_endedText (text : String) : (endedText text).toList = ended text.toList := by
  simp only [endedText, ended, String.toList_eq_nil_iff]
  split <;> simp

theorem closed_parenthesis : Closed ")".toList :=
  ⟨[], ')', rfl, by decide⟩

theorem importBlock_eq {dependencies : List String} (hne : dependencies ≠ []) (indent : Indent) :
    importBlock dependencies indent =
      "import (\n" ++ String.join (dependencies.map fun d => indent.unit ++ "\"" ++ d ++ "\"\n") ++ ")" := by
  have hblock := Builder.trimmed_block_line (b := Builder.start indent) rfl "import (" closed_parenthesis
    dependencies fun d => "\"" ++ d ++ "\""
  rw [importBlock, if_neg (by simpa using hne), hblock]
  simp [Builder.start, String.append_assoc]

theorem closed_importBlock {dependencies : List String} (hne : dependencies ≠ []) (indent : Indent) :
    Closed (importBlock dependencies indent).toList := by
  rw [importBlock_eq hne, String.toList_append]
  exact closed_parenthesis.append _

theorem return_not_mem_importBlock {dependencies : List String} (hne : dependencies ≠ []) (indent : Indent)
    (h : ∀ d ∈ dependencies, '\r' ∉ d.toList) : '\r' ∉ (importBlock dependencies indent).toList := by
  have hunit : '\r' ∉ indent.unit.toList := fun hmem => (indent.oneLine_unit _ hmem).2 rfl
  rw [importBlock_eq hne]
  intro hmem
  simp [String.toList_append, String.toList_join, hunit] at hmem
  obtain ⟨d, hd, hreturn⟩ := hmem
  exact h d hd hreturn

/-- What is built of a file before the text. -/
def fileHead (package : String) (indent : Indent) (dependencies : List String) : Builder :=
  let b := ((Builder.start indent).line ("package " ++ package)).blank
  if dependencies.isEmpty then b else (b.text (importBlock dependencies indent)).blank

theorem sourceFile_eq_text (package : String) (indent : Indent) (dependencies : List String) (text : String) :
    sourceFile package indent dependencies text = ((fileHead package indent dependencies).text text).out :=
  rfl

theorem depth_fileHead (package : String) (indent : Indent) (dependencies : List String) :
    (fileHead package indent dependencies).depth = 0 := by
  unfold fileHead
  split
  · rfl
  · simp [Builder.blank, Builder.line, Builder.start]

theorem out_fileHead (package : String) (indent : Indent) {dependencies : List String}
    (h : ∀ d ∈ dependencies, '\r' ∉ d.toList) :
    (fileHead package indent dependencies).out =
      "package " ++ package ++ "\n\n" ++ importLines indent.unit dependencies := by
  have hclause : ((Builder.start indent).line ("package " ++ package)).blank.out =
      "package " ++ package ++ "\n\n" := by
    simp [Builder.start, Builder.line, Builder.blank, Builder.pad, String.append_assoc]
  by_cases hne : dependencies = []
  · subst hne
    simpa [fileHead, importLines] using hclause
  · have hlines := Builder.toList_text_ended (b := ((Builder.start indent).line ("package " ++ package)).blank)
      rfl (return_not_mem_importBlock hne indent h)
    rw [hclause, (closed_importBlock hne indent).ended_eq] at hlines
    rw [fileHead, if_neg (by simpa using hne), importLines, if_neg hne, ← String.toList_inj, Builder.blank,
      String.toList_append, hlines, importBlock_eq hne]
    simp

theorem sourceFile_eq (package : String) (indent : Indent) {dependencies : List String} {text : String}
    (htext : '\r' ∉ text.toList) (hdependencies : ∀ d ∈ dependencies, '\r' ∉ d.toList) :
    sourceFile package indent dependencies text = fileText package indent.unit dependencies text := by
  have hlines := Builder.toList_text_ended (depth_fileHead package indent dependencies) htext
  rw [← String.toList_inj, sourceFile_eq_text, hlines, out_fileHead package indent hdependencies,
    ← toList_endedText, ← String.toList_append, fileText]

/-- A complete file is the output with the text of the file, whatever stands in the text and the
dependencies apart from carriage returns. -/
theorem complete_eq (g : Generator) (package : String) (o : OutputModel) (htext : '\r' ∉ o.text.toList)
    (hdependencies : ∀ d ∈ o.dependencies, '\r' ∉ d.toList) :
    g.complete package o =
      { o with text := fileText package g.options.indent.unit o.dependencies o.text } := by
  rw [Generator.complete, sourceFile_eq package g.options.indent htext hdependencies]

/-- An output with blank lines, blanks in front and newlines at its end. -/
def spaced : OutputModel where
  id := "t"
  typeName := "T"
  fileName := "t.go"
  text := "\n  type T int\n\n\n// end\n\n"
  dependencies := ["fmt", "time"]

theorem complete_eq_spaced :
    Generator.complete {} "models" spaced = { spaced with text :=
      "package models\n\nimport (\n\t\"fmt\"\n\t\"time\"\n)\n\n\n  type T int\n\n\n// end\n\n" } := by
  have htext : '\r' ∉ spaced.text.toList := by decide
  have hdependencies : ∀ d ∈ spaced.dependencies, '\r' ∉ d.toList := by decide
  rw [complete_eq {} "models" spaced htext hdependencies]
  decide

end SchemaGo.Generate
