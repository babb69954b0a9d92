import SchemaGo.Proofs.Generate.Files
import SchemaGo.Proofs.Model.RoundTrip
import SchemaGo.Proofs.Render.Simulation

/-! Running the command that generates files, on a file system that is one table of texts by their paths.
The files of the models that are rendered are written, whatever becomes of the other models, and nothing
else is. The run fails in the end if a model did. Another run that reads the same finds every file as it
is to be, and leaves the table alone. The names of the files have to be distinct: otherwise the file that
is written second replaces the first. -/

namespace SchemaGo.Command

open File (GeneratedFile WriteResult generatedHeader join join_injective run_writeAll_lines
  run_writeAll_table table)
open Generate (Generator OutputModel)
open Model (Index)
open Render (RenderError run_bind_of_ok)

/-! ### Reading -/

/-- The contents of a table that are read from a path. -/
def loaded {α : Type} (t : List (String × String)) (read? : String → Option α)
    (invalid : String → Failure) (path : String) : Except Failure α :=
  match Keyed.get? t path with
  | none => .error (.unreadable path)
  | some text =>
    match read? text with
    | none => .error (invalid path)
    | some a => .ok a

theorem run_load_table {α : Type} (t : List (String × String)) (read? : String → Option α)
    (invalid : String → Failure) (path : String) :
    (load table read? invalid path).run.run t = (loaded t read? invalid path, t) := by
  have hload : (load table read? invalid path).run.run t =
      (match Keyed.get? t path with
        | none => throw (.unreadable path)
        | some text =>
          match read? text with
          | none => throw (invalid path)
          | some a => return a : ExceptT Failure (StateM (List (String × String))) α).run.run t := rfl
  rw [hload, loaded]
  cases Keyed.get? t path with
  | none => rfl
  | some text =>
    dsimp only
    cases read? text <;> rfl

/-- The configuration in a table. -/
def loadedConfig (t : List (String × String)) : Option String → Except Failure Config
  | some path => loaded t Config.ofText? .invalidConfig path
  | none =>
    if (Keyed.get? t configFile).isSome then loaded t Config.ofText? .invalidConfig configFile
    else .ok {}

theorem run_loadConfig_table (t : List (String × String)) (path? : Option String) :
    (loadConfig table path?).run.run t = (loadedConfig t path?, t) := by
  cases path? with
  | some path => exact run_load_table t _ _ path
  | none =>
    have hload : (loadConfig table none).run.run t =
        (if (Keyed.get? t configFile).isSome then load table Config.ofText? .invalidConfig configFile
          else return {} : ExceptT Failure (StateM (List (String × String))) Config).run.run t := rfl
    rw [hload, loadedConfig]
    split
    · exact run_load_table t _ _ configFile
    · rfl

theorem run_loadIndex_table (t : List (String × String)) (path : String) :
    (loadIndex table path).run.run t =
      (loaded t (Json.Decoder.ofText Index.decoder) .invalidDocument path, t) :=
  run_load_table t _ _ path

/-- What a run reads from a table: the options, the package of the files and the index of a document. -/
structure Loads (t : List (String × String)) (a : GenerateArguments) (g : Generator) (package : String)
    (x : Index) : Prop where
  config : ∃ c : Config, ((loadConfig table a.config).run.run t).1 = .ok c ∧
    g = { options := c.options } ∧ package = (a.package.or c.package).getD defaultPackage
  index : ((loadIndex table a.input).run.run t).1 = .ok x

theorem loaded_congr {α : Type} {t t' : List (String × String)} {path : String}
    (h : Keyed.get? t' path = Keyed.get? t path) (read? : String → Option α)
    (invalid : String → Failure) : loaded t' read? invalid path = loaded t read? invalid path := by
  rw [loaded, h, loaded]

section

variable {t t' : List (String × String)} {a : GenerateArguments} {g : Generator} {package : String}
  {x : Index}

/-- A run reads the same if the document and the configuration have stayed as they were. -/
theorem Loads.of_get? (loads : Loads t a g package x) (input : Keyed.get? t' a.input = Keyed.get? t a.input)
    (config : Keyed.get? t' (a.config.getD configFile) = Keyed.get? t (a.config.getD configFile)) :
    Loads t' a g package x := by
  obtain ⟨⟨c, hc, hg, hpackage⟩, hindex⟩ := loads
  have hconfig : loadedConfig t' a.config = loadedConfig t a.config := by
    unfold loadedConfig
    cases ha : a.config with
    | some path => exact loaded_congr (by simpa [ha] using config) _ _
    | none =>
      have hfile : Keyed.get? t' configFile = Keyed.get? t configFile := by simpa [ha] using config
      simp only [hfile, loaded_congr hfile]
  refine ⟨⟨c, ?_, hg, hpackage⟩, ?_⟩
  · rw [run_loadConfig_table] at hc ⊢
    exact hconfig.trans hc
  · rw [run_loadIndex_table] at hindex ⊢
    exact (loaded_congr input _ _).trans hindex

/-! ### Results -/

theorem length_filesOf_add_errorsOf (results : List (Except RenderError OutputModel)) :
    (filesOf results).length + (errorsOf results).length = results.length := by
  induction results with
  | nil => rfl
  | cons result results ih =>
    simp only [filesOf, errorsOf] at ih
    cases result <;> simp [filesOf, errorsOf, ← ih] <;> omega

theorem errorsOf_generateFiles (g : Generator) (package : String) (x : Index) :
    errorsOf (g.generateFiles package x) = x.withContextNames.reachable.filterMap fun m =>
      match g.render m x.withContextNames with
      | .ok _ => none
      | .error e => some e := by
  rw [errorsOf, Generator.generateFiles, Generator.generate, List.map_map, List.filterMap_map]
  refine List.filterMap_congr fun m _ => ?_
  cases h : g.render m x.withContextNames <;> simp [h, Except.map]

theorem errorsOf_eq_nil_iff (g : Generator) (package : String) (x : Index) :
    errorsOf (g.generateFiles package x) = [] ↔
      ∀ m ∈ x.withContextNames.reachable, (g.render m x.withContextNames).isOk := by
  rw [errorsOf_generateFiles, List.filterMap_eq_nil_iff]
  refine forall₂_congr fun m _ => ?_
  cases g.render m x.withContextNames <;> simp [Except.isOk, Except.toBool]

theorem length_generateFiles (g : Generator) (package : String) (x : Index) :
    (g.generateFiles package x).length = x.withContextNames.reachable.length := by
  simp [Generator.generateFiles, Generator.generate]

/-! ### Writing -/

/-- The report of a run that has written its files or failed at one of them. -/
def reportOf (results : List (Except RenderError OutputModel)) (written : String × Option Failure) :
    Report where
  output := written.1
  failure := written.2.or
    (if (errorsOf results).isEmpty then none else some (.unrendered (errorsOf results).length results.length))
  errors := errorsOf results

theorem run_generate_table (loads : Loads t a g package x) (wet : a.dryRun = false) :
    (run table (.generate a)).run t =
      ((writeFiles table a.output (filesOf (g.generateFiles package x))).run t).map
        (reportOf (g.generateFiles package x)) id := by
  obtain ⟨⟨c, hc, rfl, rfl⟩, hindex⟩ := loads
  rw [run_loadConfig_table] at hc
  rw [run_loadIndex_table] at hindex
  have hgenerate : (runGenerate table a).run.run t =
      ((writeFiles table a.output (filesOf (Generator.generateFiles { options := c.options }
        ((a.package.or c.package).getD defaultPackage) x))).run t).map
        (fun r => .ok (reportOf (Generator.generateFiles { options := c.options }
          ((a.package.or c.package).getD defaultPackage) x) r)) id := by
    rw [runGenerate, run_bind_of_ok ((run_loadConfig_table t a.config).trans (Prod.ext hc rfl)),
      run_bind_of_ok ((run_loadIndex_table t a.input).trans (Prod.ext hindex rfl)), wet]
    rfl
  rw [run, StateT.run_bind, hgenerate]
  rfl

/-- The output of a run about files with given results of writing them. -/
def summary (base : String) (files : List GeneratedFile) (result : GeneratedFile → WriteResult) : String :=
  String.join (files.map fun f => fileLine f base (result f)) ++ "\nGenerated " ++ toString files.length ++
    " files in " ++ base ++ "\n"

theorem summary_congr {base : String} {files : List GeneratedFile} {r r' : GeneratedFile → WriteResult}
    (h : ∀ f ∈ files, r f = r' f) : summary base files r = summary base files r' := by
  have hlines : files.map (fun f => fileLine f base (r f)) = files.map fun f => fileLine f base (r' f) :=
    List.map_congr_left fun f hf => by rw [h f hf]
  rw [summary, hlines, summary]

/-- A table after some files are put into it. -/
def withFiles (base : String) (files : List GeneratedFile) (t : List (String × String)) :
    List (String × String) :=
  (files.map fun f => (f.path base, f.contents)).foldl (fun t p => Keyed.put t p.1 p.2) t

theorem run_writeFiles_table {base : String} {files : List GeneratedFile}
    (apart : (files.map (·.path base)).Nodup) (t : List (String × String)) :
    (writeFiles table base files).run t =
      ((summary base files (·.resultIn t base), none), withFiles base files t) := by
  have hwrite : (writeAll table base files).run t =
      ((String.join (files.map fun f => fileLine f base (f.resultIn t base)), none),
        withFiles base files t) := by
    rw [withFiles, List.foldl_map]
    exact Prod.ext (run_writeAll_lines apart t) (run_writeAll_table base files t)
  rw [writeFiles, StateT.run_bind, hwrite]
  rfl

theorem get?_withFiles_of_mem {base : String} {files : List GeneratedFile}
    (apart : (files.map (·.path base)).Nodup) (t : List (String × String)) {f : GeneratedFile}
    (h : f ∈ files) : Keyed.get? (withFiles base files t) (f.path base) = some f.contents := by
  have hdistinct : Keyed.Distinct (files.map fun f => (f.path base, f.contents)) := by
    simpa [Keyed.Distinct, Keyed.keys, Function.comp_def] using apart
  exact Keyed.get?_foldl_put_of_mem hdistinct (List.mem_map.2 ⟨f, h, rfl⟩)

theorem get?_withFiles_of_ne {base : String} {files : List GeneratedFile} (t : List (String × String))
    {path : String} (h : ∀ f ∈ files, f.path base ≠ path) :
    Keyed.get? (withFiles base files t) path = Keyed.get? t path := by
  refine Keyed.get?_foldl_put_of_not_mem fun hmem => ?_
  simp only [Keyed.keys, List.map_map, List.mem_map, Function.comp_apply] at hmem
  obtain ⟨f, hf, hpath⟩ := hmem
  exact h f hf hpath

/-- Files that are in a table already are put there without a change. -/
theorem withFiles_of_get? {base : String} {files : List GeneratedFile} {t : List (String × String)}
    (h : ∀ f ∈ files, Keyed.get? t (f.path base) = some f.contents) : withFiles base files t = t :=
  Keyed.foldl_put_of_get? (by simpa using h)

/-- What a run leaves of a table, and what it reports. The file of every output holds the header and the
text, and every other path is as it was, so that a failed model leaves its file alone unless an output has
the same one. The run fails exactly if a model does, and counts all of them. -/
structure Generated (g : Generator) (package : String) (x : Index) (base : String)
    (before after : List (String × String)) (r : Report) : Prop where
  written : ∀ o ∈ g.outputs package x,
    Keyed.get? after (join base o.fileName) = some (generatedHeader ++ "\n\n" ++ o.text)
  kept : ∀ path, (∀ o ∈ g.outputs package x, join base o.fileName ≠ path) →
    Keyed.get? after path = Keyed.get? before path
  failed : ∀ m ∈ x.withContextNames.reachable, (g.render m x.withContextNames).isOk = false →
    ∀ file, file = fileName (typeName (m.id.getD "")) → file ∉ (g.outputs package x).map (·.fileName) →
      Keyed.get? after (join base file) = Keyed.get? before (join base file)
  output : r.output = summary base (filesOf (g.generateFiles package x)) (·.resultIn before base)
  errors : r.errors = x.withContextNames.reachable.filterMap fun m =>
    match g.render m x.withContextNames with
    | .ok _ => none
    | .error e => some e
  counted : (g.outputs package x).length + r.errors.length = x.withContextNames.reachable.length
  failure : r.failure =
    if ∀ m ∈ x.withContextNames.reachable, (g.render m x.withContextNames).isOk then none
    else some (.unrendered r.errors.length x.withContextNames.reachable.length)

/-- A run with outputs that are apart writes all of them, and nothing else. -/
theorem run_generate_apart (loads : Loads t a g package x) (wet : a.dryRun = false)
    (apart : ((g.outputs package x).map (·.fileName)).Nodup) :
    (run table (.generate a)).run t =
      (reportOf (g.generateFiles package x)
        (summary a.output (filesOf (g.generateFiles package x)) (·.resultIn t a.output), none),
        withFiles a.output (filesOf (g.generateFiles package x)) t) := by
  rw [run_generate_table loads wet, run_writeFiles_table ((Generator.nodup_paths_outputs a.output).2 apart)]
  rfl

theorem generated (base : String) (t : List (String × String))
    (apart : ((g.outputs package x).map (·.fileName)).Nodup) :
    Generated g package x base t (withFiles base (filesOf (g.generateFiles package x)) t)
      (reportOf (g.generateFiles package x)
        (summary base (filesOf (g.generateFiles package x)) (·.resultIn t base), none)) := by
  have hkept : ∀ path, (∀ o ∈ g.outputs package x, join base o.fileName ≠ path) →
      Keyed.get? (withFiles base (filesOf (g.generateFiles package x)) t) path = Keyed.get? t path := by
    intro path hpath
    refine get?_withFiles_of_ne t fun f hf => ?_
    rw [Generator.filesOf_generateFiles] at hf
    obtain ⟨o, ho, rfl⟩ := List.mem_map.1 hf
    exact hpath o ho
  have hcount := length_filesOf_add_errorsOf (g.generateFiles package x)
  rw [Generator.filesOf_generateFiles, List.length_map, length_generateFiles] at hcount
  refine ⟨fun o ho => ?_, hkept, fun m _ _ file hfile hfree => ?_, rfl,
    errorsOf_generateFiles g package x, hcount, ?_⟩
  · have hfile : ({ name := o.fileName, body := o.text } : GeneratedFile) ∈
        filesOf (g.generateFiles package x) := by
      rw [Generator.filesOf_generateFiles]
      exact List.mem_map.2 ⟨o, ho, rfl⟩
    exact get?_withFiles_of_mem ((Generator.nodup_paths_outputs base).2 apart) t hfile
  · -- below one base, the files of two outputs are told apart by their names
    refine hkept _ fun o ho heq => hfree (List.mem_map.2 ⟨o, ho, ?_⟩)
    refine join_injective base ?_ (hfile ▸ head?_fileName _) heq
    rw [Generator.fileName_of_mem_outputs ho]
    exact head?_fileName o.typeName
  · simp only [reportOf, Option.none_or, List.isEmpty_iff, errorsOf_eq_nil_iff, length_generateFiles]

/-- A run that is no dry one writes the files of all models that are rendered and nothing else, and fails
if a model does. Another run with the same document, options and package finds every file unchanged, and
leaves the table as it is; the same command reads the same again unless it has written where it reads. -/
theorem generate_writes (loads : Loads t a g package x) (wet : a.dryRun = false)
    (apart : ((g.outputs package x).map (·.fileName)).Nodup) :
    ∃ after r, (run table (.generate a)).run t = (r, after) ∧
      Generated g package x a.output t after r ∧
      (∀ b : GenerateArguments, b.output = a.output → b.dryRun = false → Loads after b g package x →
        (run table (.generate b)).run after =
          ({ r with
            output := summary a.output (filesOf (g.generateFiles package x)) fun _ => .unchanged }, after)) ∧
      ((∀ o ∈ g.outputs package x, join a.output o.fileName ≠ a.input ∧
        join a.output o.fileName ≠ a.config.getD configFile) → Loads after a g package x) := by
  have hpaths := (Generator.nodup_paths_outputs (g := g) (x := x) a.output).2 apart
  have hgenerated := generated a.output t apart
  refine ⟨_, _, run_generate_apart loads wet apart, hgenerated, fun b hbase hb hloads => ?_,
    fun hread => ?_⟩
  · have hthere := fun f hf => get?_withFiles_of_mem hpaths t (f := f) hf
    have hunchanged : ∀ f ∈ filesOf (g.generateFiles package x),
        f.resultIn (withFiles a.output (filesOf (g.generateFiles package x)) t) a.output = .unchanged :=
      fun f hf => if_pos (hthere f hf)
    rw [run_generate_apart hloads hb apart, hbase, withFiles_of_get? hthere, summary_congr hunchanged]
    rfl
  · exact loads.of_get? (hgenerated.kept _ fun o ho => (hread o ho).1)
      (hgenerated.kept _ fun o ho => (hread o ho).2)

end

/-- A struct, and a model that is neither a struct nor an enum. -/
def pets : Index :=
  .ofModels [Generate.emptyStruct "pet", { id := some "email", type := some (.single .string) }]

def petsArguments : GenerateArguments where
  input := "models.json"
  package := some "pets"
  output := "out"

theorem ofText_pets : Json.Decoder.ofText Index.decoder pets.json.text = some pets := by
  have hleaf (id : String) (tag : Model.TypeTag) :
      Model.ModelNode.DistinctKeys { id := some id, type := some (.single tag) } :=
    .intro .nil .nil (by rintro _ ⟨⟩) (by simp [Model.ModelNode.children_eq])
  have hdistinct : pets.DistinctKeys := by
    change ∀ m ∈ [_, _], Model.ModelNode.DistinctKeys m
    simp only [List.forall_mem_cons]
    exact ⟨hleaf "pet" .object, hleaf "email" .string, by simp⟩
  have hnumbers : pets.json.numbers = [] := rfl
  rw [Json.Decoder.ofText, Json.parse?_text (by simp [hnumbers])]
  exact Index.readsBack hdistinct 127 (by decide)

theorem loads_pets : Loads [("models.json", pets.json.text)] petsArguments {} "pets" pets := by
  refine ⟨⟨{}, ?_, rfl, rfl⟩, ?_⟩
  · rw [run_loadConfig_table]
    rfl
  · rw [run_loadIndex_table, loaded, show Keyed.get? _ petsArguments.input = some pets.json.text from rfl]
    simp only [ofText_pets]

/-- One of the two models is written, the other one makes the run fail, and the second run finds the file
unchanged. -/
theorem generate_writes_pets :
    Loads [("models.json", pets.json.text)] petsArguments {} "pets" pets ∧ petsArguments.dryRun = false ∧
      ((Generator.outputs {} "pets" pets).map (·.fileName)).Nodup ∧
      ∃ after r, (run table (.generate petsArguments)).run [("models.json", pets.json.text)] = (r, after) ∧
        r.failure = some (.unrendered 1 2) ∧
        Keyed.get? after "out/pet.go" = some ("// Code generated by sapling. DO NOT EDIT.\n\n" ++
          "package pets\n\n// Pet represents a Pet model.\ntype Pet struct \x7b\n\x7d\n") ∧
        Keyed.get? after "out/email.go" = none ∧
        (run table (.generate petsArguments)).run after =
          ({ r with output := "  = out/pet.go\n\nGenerated 1 files in out\n" }, after) := by
  have apart : ((Generator.outputs {} "pets" pets).map (·.fileName)).Nodup := by decide +kernel
  obtain ⟨after, r, hrun, hgenerated, hagain, hread⟩ := generate_writes loads_pets rfl apart
  have houtputs : Generator.outputs {} "pets" pets =
      [⟨"pet", "Pet", "pet.go",
        "package pets\n\n// Pet represents a Pet model.\ntype Pet struct \x7b\n\x7d\n", []⟩] := by
    decide +kernel
  refine ⟨loads_pets, rfl, apart, after, r, hrun, ?_, ?_, ?_, ?_⟩
  · rw [hgenerated.failure, hgenerated.errors]
    decide +kernel
  · have hwritten := hgenerated.written
    rw [houtputs, List.forall_mem_singleton] at hwritten
    exact hwritten
  · refine (hgenerated.kept _ ?_).trans rfl
    rw [houtputs, List.forall_mem_singleton]
    decide +kernel
  · have hloads := hread (by rw [houtputs, List.forall_mem_singleton]; decide +kernel)
    rw [hagain petsArguments rfl rfl hloads, summary, Generator.filesOf_generateFiles, houtputs]
    rfl

end SchemaGo.Command
