import SchemaGo.Proofs.File.Child
import SchemaGo.Proofs.Generate.Files
import SchemaGo.Proofs.Generate.Generator
import SchemaGo.Proofs.Naming.FileName
import SchemaGo.Proofs.Render.Shape

/-! The place of the generated files. A model is rendered only if its name has a letter or a number, and its
file is named after those alone. So whatever the names in a document are, with slashes, dots and null
characters, the files are written to the base itself and not next to it or below it. -/

namespace SchemaGo.Generate

open File (GeneratedFile IsChild isChild_join)
open Model (Index ModelNode)
open Render (modelTypeName_eq_ok_iff)

/-- The type that a model is rendered under has a name. -/
theorem typeName_of_mem_generate {g : Generator} {x : Index} {o : OutputModel} (h : .ok o ∈ g.generate x) :
    o.fileName = fileName o.typeName ∧ ∃ id, o.typeName = typeName id ∧ typeName id ≠ "" := by
  obtain ⟨m, -, hm⟩ := List.mem_map.1 h
  cases hrender : g.render m x.withContextNames with
  | error e => simp [hrender, Except.map] at hm
  | ok out =>
    obtain ⟨type, hname⟩ := Generator.exists_modelTypeName hrender
    obtain ⟨id, hid, rfl, hne⟩ := modelTypeName_eq_ok_iff.1 hname
    obtain rfl : outputModel m out = o := by simpa [hrender, Except.map] using hm
    exact ⟨rfl, id, by simp [outputModel, hid], hne⟩

theorem isChild_of_isStem {stem : String} (h : IsStem stem) (base : String) :
    IsChild (File.join base (stem ++ ".go")) base (stem ++ ".go") := by
  obtain ⟨c, cs, hcs⟩ := List.exists_cons_of_ne_nil (mt String.toList_eq_nil_iff.1 h.ne_empty)
  obtain ⟨-, -, hdot, -⟩ := h.plain c (by simp [hcs])
  refine isChild_join base ?_ ?_ ?_
  · simpa using fun hslash => (h.plain '/' hslash).1 rfl
  · simp [File.isVoid, hcs]
  · intro hback
    have hhead := congrArg (fun s => s.toList.head?) hback
    simp [hcs] at hhead
    exact hdot hhead

/-- Every output of a document is named after a stem of one file, and written below a base it is a child of
the base. -/
theorem output_in_base (g : Generator) (x : Index) (o : OutputModel) (h : .ok o ∈ g.generate x) :
    ∃ stem, o.fileName = stem ++ ".go" ∧ IsStem stem ∧
      ∀ base text, IsChild (GeneratedFile.path { name := o.fileName, body := text } base) base o.fileName := by
  obtain ⟨hfile, id, htype, hne⟩ := typeName_of_mem_generate h
  have hstem := isStem_typeName hne
  rw [hfile, htype, fileName_eq]
  exact ⟨_, rfl, hstem, fun base _ => isChild_of_isStem hstem base⟩

/-- A name that steps back, with separators of two systems and a null character. -/
theorem output_in_base_of_path :
    ∃ o, .ok o ∈ Generator.generate {} (Index.ofModels [emptyStruct "../..\\etc/\x00passwd"]) ∧
      o.fileName = "etc_passwd.go" ∧ IsChild "out/etc_passwd.go" "out" "etc_passwd.go" := by
  let o : OutputModel := ⟨"../..\\etc/\x00passwd", "EtcPasswd", "etc_passwd.go",
    "// EtcPasswd represents a EtcPasswd model.\ntype EtcPasswd struct \x7b\n\x7d", []⟩
  have hmem : .ok o ∈ Generator.generate {} (Index.ofModels [emptyStruct "../..\\etc/\x00passwd"]) := by
    decide +kernel
  have hpath : GeneratedFile.path { name := "etc_passwd.go", body := o.text } "out" = "out/etc_passwd.go" := by
    decide +kernel
  obtain ⟨stem, -, -, hchild⟩ := output_in_base {} _ o hmem
  have hin := hchild "out" o.text
  rw [hpath] at hin
  exact ⟨o, hmem, rfl, hin⟩

end SchemaGo.Generate
