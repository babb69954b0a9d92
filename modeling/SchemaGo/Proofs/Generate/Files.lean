import SchemaGo.Proofs.File.Table
import SchemaGo.Proofs.Model.Reachable
import SchemaGo.Proofs.Text.Snake

/-! The files of a document. No two reachable models share a name, but types and files are named after
what is left of the names: Pascal case drops the separators, and snake case puts none between two
capitals. So two models can have one type or one file, and the file written second replaces the first. -/

namespace SchemaGo

/-- The name of a file is no absolute path. -/
theorem head?_fileName (type : String) : (fileName type).toList.head? ≠ some '/' := by
  intro hhead
  obtain ⟨cs, hcs⟩ := List.head?_eq_some_iff.1 hhead
  have hslash : '/' ∈ (Text.snakeCase type).toList ++ ".go".toList := by
    rw [← String.toList_append]
    exact hcs ▸ List.mem_cons_self
  rcases List.mem_append.1 hslash with hmem | hmem
  · exact (Text.fromDigits_snakeCase type).not_mem (by decide) hmem
  · exact absurd hmem (by decide)

namespace Generate

open Command (filesOf writeAll)
open File (GeneratedFile nodup_paths_iff run_writeAll_table_eq_iff table)
open Model (Index ModelNode)

/-! ### Outputs -/

namespace Generator

variable (g : Generator) (package : String) (x : Index)

/-- The complete outputs of the models that are rendered. -/
def outputs : List OutputModel :=
  (g.generateFiles package x).filterMap Except.toOption

/-- The names of the reachable models that are rendered. -/
def renderedNames : List String :=
  x.withContextNames.reachable.filterMap fun m =>
    if (g.render m x.withContextNames).isOk then m.id else none

/-- No two outputs have one type or one file, and writing the files leaves every one of them. -/
structure FilesApart : Prop where
  types : (g.outputs package x).Pairwise fun o p => o.typeName ≠ p.typeName
  files : (g.outputs package x).Pairwise fun o p => o.fileName ≠ p.fileName
  written : ∀ base, ((writeAll table base (filesOf (g.generateFiles package x))).run []).2 =
    (filesOf (g.generateFiles package x)).map fun f => (f.path base, f.contents)

theorem outputs_eq :
    g.outputs package x = x.withContextNames.reachable.filterMap fun m =>
      (g.render m x.withContextNames).toOption.map fun o => g.complete package (outputModel m o) := by
  rw [outputs, generateFiles, generate, List.map_map, List.filterMap_map]
  refine List.filterMap_congr fun m _ => ?_
  cases h : g.render m x.withContextNames with
  | error e => simp [h, Except.map, Except.toOption]
  | ok o => simp [h, Except.map, Except.toOption]

theorem filesOf_generateFiles :
    filesOf (g.generateFiles package x) =
      (g.outputs package x).map fun o => { name := o.fileName, body := o.text } := by
  rw [filesOf, outputs, List.map_filterMap]
  refine List.filterMap_congr fun result _ => ?_
  cases result <;> rfl

variable {g package x}

theorem fileName_of_mem_outputs {o : OutputModel} (h : o ∈ g.outputs package x) :
    o.fileName = fileName o.typeName := by
  rw [outputs_eq, List.mem_filterMap] at h
  obtain ⟨m, -, hm⟩ := h
  obtain ⟨out, -, rfl⟩ := Option.map_eq_some_iff.1 hm
  rfl

/-- The files of the outputs have distinct paths if they have distinct names. -/
theorem nodup_paths_outputs (base : String) :
    ((filesOf (g.generateFiles package x)).map (·.path base)).Nodup ↔
      ((g.outputs package x).map (·.fileName)).Nodup := by
  have hrelative : ∀ f ∈ filesOf (g.generateFiles package x), f.name.toList.head? ≠ some '/' := by
    intro f hf
    rw [filesOf_generateFiles] at hf
    obtain ⟨o, ho, rfl⟩ := List.mem_map.1 hf
    rw [fileName_of_mem_outputs ho]
    exact head?_fileName o.typeName
  rw [nodup_paths_iff base hrelative, filesOf_generateFiles, List.map_map]
  rfl

/-- The outputs are apart as soon as their file names are. -/
theorem filesApart_iff_nodup :
    g.FilesApart package x ↔ ((g.outputs package x).map (·.fileName)).Nodup := by
  refine ⟨fun h => List.pairwise_map.2 h.files, fun h => ?_⟩
  have hfiles := List.pairwise_map.1 h
  have htypes : (g.outputs package x).Pairwise fun o p => o.typeName ≠ p.typeName := by
    refine hfiles.imp_of_mem fun ho hp hne htype => hne ?_
    rw [fileName_of_mem_outputs ho, fileName_of_mem_outputs hp, htype]
  refine ⟨htypes, hfiles, fun base => ?_⟩
  rw [run_writeAll_table_eq_iff, nodup_paths_outputs]
  exact h

theorem nodup_renderedNames (hx : x.KeyedByName) : (g.renderedNames x).Nodup := by
  have hids := List.pairwise_map.1 (Index.nodup_reachable hx.withContextNames)
  refine List.pairwise_filterMap.2 (hids.imp fun {m n} hne a ha b hb heq => hne ?_)
  obtain ⟨-, hm⟩ := Option.ite_none_right_eq_some.1 ha
  obtain ⟨-, hn⟩ := Option.ite_none_right_eq_some.1 hb
  rw [hm, hn, heq]

/-- The file names of the outputs come from the names of the models. -/
theorem fileNames_outputs (hx : x.KeyedByName) :
    (g.outputs package x).map (·.fileName) =
      (g.renderedNames x).map fun id => fileName (typeName id) := by
  rw [outputs_eq, renderedNames, List.map_filterMap, List.map_filterMap]
  refine List.filterMap_congr fun m hm => ?_
  obtain ⟨id, hid⟩ := Index.exists_id_of_reachable hx.withContextNames hm
  cases g.render m x.withContextNames with
  | error e => rfl
  | ok o => simp [Except.toOption, Except.isOk, Except.toBool, complete, outputModel, hid]

end Generator

/-- The outputs of a document are apart exactly if the names of the models that are rendered are told
apart by their file names. -/
theorem files_apart_iff (g : Generator) (package : String) (l : List ModelNode) :
    g.FilesApart package (Index.ofModels l) ↔
      ∀ a ∈ g.renderedNames (Index.ofModels l), ∀ b ∈ g.renderedNames (Index.ofModels l),
        fileName (typeName a) = fileName (typeName b) → a = b := by
  have hkeyed := Index.keyedByName_ofModels l
  rw [Generator.filesApart_iff_nodup, Generator.fileNames_outputs hkeyed]
  exact List.nodup_map_iff_inj_on (Generator.nodup_renderedNames hkeyed)

/-! ### Names that collide -/

/-- A struct without fields. -/
def emptyStruct (id : String) : ModelNode where
  id := some id
  type := some (.single .object)

/-- Two names of one type, and two names of two types in one file. -/
theorem files_collide :
    ¬ Generator.FilesApart {} "models" (Index.ofModels [emptyStruct "a_b", emptyStruct "a-b"]) ∧
      ¬ Generator.FilesApart {} "models" (Index.ofModels [emptyStruct "a_b", emptyStruct "ab"]) := by
  constructor
  · intro h
    exact absurd h.types (by decide +kernel)
  · intro h
    exact absurd h.files (by decide +kernel)

-- Two files are written and one is left.
example : ((writeAll table "out" (filesOf (Generator.generateFiles {} "models"
    (Index.ofModels [emptyStruct "a_b", emptyStruct "ab"])))).run []).2.map (·.1) = ["out/ab.go"] := by
  decide +kernel

end Generate

end SchemaGo
