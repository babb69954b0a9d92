import Mathlib.Data.List.Nodup
import SchemaGo.Command.Run
import SchemaGo.Proofs.Keyed

/-! Writing files to a disk that is one table of texts. Every path can be written there, so what is left
depends on the paths only: a file stays as it was written exactly if no other one has its path. -/

namespace SchemaGo.File

/-- A disk that keeps one table of texts by their paths. -/
def table : Disk (StateM (List (String × String))) where
  read path := do return Keyed.get? (← get) path
  isPresent path := do return (Keyed.get? (← get) path).isSome
  createFolders _ := pure true
  write path text := modifyGet fun t => (true, Keyed.put t path text)

/-- What writing a file tells of a table: whether the contents are there already. -/
def GeneratedFile.resultIn (t : List (String × String)) (base : String) (f : GeneratedFile) :
    WriteResult :=
  if Keyed.get? t (f.path base) = some f.contents then .unchanged else .written

theorem run_write_table (f : GeneratedFile) (base : String) (t : List (String × String)) :
    (f.write table base).run.run t = (.ok (f.resultIn t base), Keyed.put t (f.path base) f.contents) := by
  have hsave : (GeneratedFile.save table (f.path base) f.contents).run.run t =
      (.ok (), Keyed.put t (f.path base) f.contents) := by
    unfold GeneratedFile.save
    cases parent? (f.path base) <;> rfl
  have hwrite : (f.write table base).run.run t =
      (if Keyed.get? t (f.path base) = some f.contents then pure .unchanged
        else do
          GeneratedFile.save table (f.path base) f.contents
          return .written : ExceptT WriteError (StateM (List (String × String))) WriteResult).run.run t :=
    rfl
  rw [hwrite, GeneratedFile.resultIn]
  split
  · next h =>
    rw [Keyed.put_of_get? h]
    rfl
  · rw [ExceptT.run_bind, StateT.run_bind, hsave]
    rfl

theorem run_writeAll_cons (base : String) (f : GeneratedFile) (files : List GeneratedFile)
    (t : List (String × String)) :
    (Command.writeAll table base (f :: files)).run t =
      ((Command.writeAll table base files).run (Keyed.put t (f.path base) f.contents)).map
        (fun r => (Command.fileLine f base (f.resultIn t base) ++ r.1, r.2)) id := by
  rw [Command.writeAll, StateT.run_bind, run_write_table]
  rfl

/-- The table after writing some files to an empty one. -/
theorem run_writeAll_table (base : String) (files : List GeneratedFile) (t : List (String × String)) :
    ((Command.writeAll table base files).run t).2 =
      files.foldl (fun t f => Keyed.put t (f.path base) f.contents) t := by
  induction files generalizing t with
  | nil => rfl
  | cons f files ih =>
    rw [run_writeAll_cons, List.foldl_cons, ← ih]
    rfl

/-- Every file is left with its contents exactly if the paths are distinct. -/
theorem run_writeAll_table_eq_iff (base : String) (files : List GeneratedFile) :
    ((Command.writeAll table base files).run []).2 = files.map (fun f => (f.path base, f.contents)) ↔
      (files.map (·.path base)).Nodup := by
  have hkeys : Keyed.Distinct (files.map fun f => (f.path base, f.contents)) ↔
      (files.map (·.path base)).Nodup := by
    simp [Keyed.Distinct, Keyed.keys, Function.comp_def]
  rw [run_writeAll_table, ← hkeys, ← Keyed.ofList_eq_self_iff, Keyed.ofList, List.foldl_map]

/-- A row of files with distinct paths is written without a failure, and the line about each file tells
whether its contents are in the table that was there before any was written. -/
theorem run_writeAll_lines {base : String} {files : List GeneratedFile}
    (apart : (files.map (·.path base)).Nodup) (t : List (String × String)) :
    ((Command.writeAll table base files).run t).1 =
      (String.join (files.map fun f => Command.fileLine f base (f.resultIn t base)), none) := by
  induction files generalizing t with
  | nil => rfl
  | cons f files ih =>
    simp only [List.map_cons, List.nodup_cons] at apart
    have hrest : files.map (fun f' => Command.fileLine f' base
          (f'.resultIn (Keyed.put t (f.path base) f.contents) base)) =
        files.map fun f' => Command.fileLine f' base (f'.resultIn t base) := by
      refine List.map_congr_left fun f' hf' => ?_
      have hne : f.path base ≠ f'.path base := fun heq => apart.1 (List.mem_map.2 ⟨f', hf', heq.symm⟩)
      rw [GeneratedFile.resultIn, Keyed.get?_put_of_ne t hne, GeneratedFile.resultIn]
    rw [run_writeAll_cons, Prod.map_fst, ih apart.2, hrest, List.map_cons, String.join_cons]

/-- Names that are not absolute paths are told apart below every base. -/
theorem join_injective (base : String) {name name' : String} (h : name.toList.head? ≠ some '/')
    (h' : name'.toList.head? ≠ some '/') (heq : join base name = join base name') : name = name' := by
  simp only [join, h, h', false_or] at heq
  split at heq
  · exact heq
  · split at heq <;> simpa [← String.toList_inj] using heq

theorem nodup_paths_iff (base : String) {files : List GeneratedFile}
    (h : ∀ f ∈ files, f.name.toList.head? ≠ some '/') :
    (files.map (·.path base)).Nodup ↔ (files.map (·.name)).Nodup := by
  have hpaths : files.map (·.path base) = (files.map (·.name)).map (join base) := by
    rw [List.map_map]
    rfl
  have hrelative : ∀ name ∈ files.map (·.name), name.toList.head? ≠ some '/' := by
    simpa using h
  rw [hpaths]
  exact ⟨List.Nodup.of_map _, List.Nodup.map_on fun name hname name' hname' =>
    join_injective base (hrelative name hname) (hrelative name' hname')⟩

end SchemaGo.File
