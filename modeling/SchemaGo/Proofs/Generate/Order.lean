import SchemaGo.Proofs.Generate.Direct
import SchemaGo.Proofs.Generate.NamedOnce
import SchemaGo.Proofs.Model.Order

/-! The order of the entries of a document. The names and the aliases that an entry is rendered with do
not go by the order of the others if no name occurs twice and none needs a number. Then every entry has
results of its own, those of its model and of the structs and enums named below it, and another order of
the entries gives these results in the other order. Presets of a caller are left out: they can keep count
of the models they see. -/

namespace SchemaGo.Generate

open Model (Index ModelNode)
open Render (RenderError plainEnum plainEnum_congr plainStruct plainStruct_eq_iff)

namespace Generator

variable {g : Generator} {x y : Index}

/-- Indexes of one size with the same entries under every key render a model alike if nothing is left to
name below it. -/
theorem render_index_congr (plain : g.presets = []) (size : y.size = x.size)
    (entries : ∀ key, y.get? key = x.get? key) {m : ModelNode} (settled : ∀ c ∈ m.descendants, c.Settled) :
    g.render m y = g.render m x := by
  have haliases : ∀ key, TypeExpr.alias? y key = TypeExpr.alias? x key := fun key => by
    rw [TypeExpr.alias?, entries, TypeExpr.alias?]
  have htypes : Render.fieldTypes y m = Render.fieldTypes x m := by
    simp only [Render.fieldTypes, TypeExpr.of_congr size haliases]
  have halike : ModelNode.Alike m m := ⟨rfl, rfl⟩
  have hstruct : plainStruct (g.renderer y) m = plainStruct (g.renderer x) m := by
    rw [plainStruct_eq_iff (r := g.renderer y) (s := g.renderer x) rfl halike]
    exact fun _ => htypes
  have henum : plainEnum (g.renderer y) m = plainEnum (g.renderer x) m := plainEnum_congr rfl halike
  have hnested : ∀ x : Index, x.nameNested m = m := fun _ => ModelNode.nameNested_settled settled _
  cases hkind : m.kind with
  | struct => simp only [render, hkind, renderStruct_plain plain, hnested, hstruct]
  | enum => simp only [render, hkind, renderEnum_plain plain, hnested, henum]
  | other => simp only [render, hkind]

/-- The results of an entry: that of its model, and those of the named structs and enums below it. -/
def block (g : Generator) (x : Index) (key : String) : List (Except RenderError OutputModel) :=
  ((x.withContextNames.get? key).toList.flatMap Index.declared).map fun d =>
    (g.render d x.withContextNames).map (outputModel d)

/-- Where no name occurs twice, the results are those of the entries, one entry after the other. -/
theorem generate_eq_blocks (keyed : x.KeyedByName) (once : x.ids.Nodup) :
    g.generate x = x.keys.flatMap (g.block x) := by
  have hmodels : x.withContextNames.models = x.keys.flatMap fun key =>
      (x.withContextNames.get? key).toList := by
    rw [← Index.keys_withContextNames, Index.models, Index.keys, Keyed.keys, List.flatMap_map,
      List.map_eq_flatMap]
    exact List.flatMap_congr fun p hp => by rw [Index.get?_iff_mem.2 hp, Option.toList_some]
  have hreachable := Index.reachable_eq_flatMap keyed.withContextNames
    (Index.nodup_ids_withContextNames once)
  rw [generate, hreachable, hmodels, List.flatMap_assoc, List.map_flatMap]
  rfl

/-- The results of an entry do not go by the order of the entries. -/
theorem block_perm (plain : g.presets = []) (perm : y.entries.Perm x.entries) (keyed : x.KeyedByName)
    (once : x.ids.Nodup) (unnumbered : x.Unnumbered) (key : String) : g.block y key = g.block x key := by
  have hperm := Index.withContextNames_perm perm unnumbered
  have hget := Index.get?_perm hperm
  rw [block, block, hget]
  refine List.map_congr_left fun d hd => ?_
  have hreach : d ∈ x.withContextNames.reachable := by
    rw [Index.reachable_eq_flatMap keyed.withContextNames (Index.nodup_ids_withContextNames once)]
    obtain ⟨m, hm, hd⟩ := List.mem_flatMap.1 hd
    have hentry := Index.get?_iff_mem.1 (Option.mem_toList.1 hm)
    exact List.mem_flatMap.2 ⟨m, List.mem_map.2 ⟨_, hentry, rfl⟩, hd⟩
  rw [render_index_congr plain hperm.length_eq hget (Index.settled_of_reachable keyed hreach)]

end Generator

/-- If no name occurs twice and none needs a number, any order of the entries gives every entry the same
results, and these stand in the order of the entries. -/
theorem generate_perm {g : Generator} (plain : g.presets = []) {x y : Index}
    (perm : y.entries.Perm x.entries) (keyed : x.KeyedByName) (once : x.ids.Nodup)
    (unnumbered : x.Unnumbered) :
    (∀ key, g.block y key = g.block x key) ∧
      g.generate x = x.keys.flatMap (g.block x) ∧
      g.generate y = y.keys.flatMap (g.block x) ∧
      (g.generate y).Perm (g.generate x) := by
  have hblock := Generator.block_perm plain perm keyed once unnumbered
  have hx := Generator.generate_eq_blocks (g := g) keyed once
  have hy : g.generate y = y.keys.flatMap (g.block x) := by
    rw [Generator.generate_eq_blocks (fun p hp => keyed p (perm.subset hp))
      ((Index.ids_perm perm).nodup_iff.2 once)]
    exact List.flatMap_congr fun key _ => hblock key
  refine ⟨hblock, hx, hy, ?_⟩
  rw [hx, hy]
  exact (perm.map _).flatMap_right _

/-- A document with a list of objects, a reference to the list, and a `point` in an object. -/
def document : Index :=
  .ofModels [listing, linked, holder (some "a")]

/-- The entries of `document` the other way round. -/
def reversed : Index :=
  .ofModels [holder (some "a"), linked, listing]

/-- The results of the holder are `A` and `AB`. They come last in the one order and first in the other. -/
theorem generate_perm_reversed :
    reversed.entries.Perm document.entries ∧ document.KeyedByName ∧ document.ids.Nodup ∧
      document.Unnumbered ∧ Generator.block {} reversed "a" = Generator.block {} document "a" ∧
      (Generator.block {} document "a").map (·.toOption.map (·.typeName)) = [some "A", some "AB"] ∧
      Generator.generate {} reversed =
        ["a", "s", "list"].flatMap (Generator.block {} document) ∧
      (Generator.generate {} reversed).Perm (Generator.generate {} document) := by
  have perm : reversed.entries.Perm document.entries := List.reverse_perm document.entries
  have keyed : document.KeyedByName := Index.keyedByName_ofModels _
  have once : document.ids.Nodup := by decide
  have unnumbered : document.Unnumbered := by decide
  obtain ⟨hblock, -, hreversed, hperm⟩ := generate_perm (g := {}) rfl perm keyed once unnumbered
  refine ⟨perm, keyed, once, unnumbered, hblock "a", ?_, hreversed, hperm⟩
  decide +kernel

end SchemaGo.Generate
