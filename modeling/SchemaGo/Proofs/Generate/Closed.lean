import SchemaGo.Proofs.Generate.Generator
import SchemaGo.Proofs.Type.Name

/-! Generated packages are closed. A type name in a field is the name of a model written in place of the
field's type or of a reference, in the model or in an alias. The first are named and listed among the
reachable models, the second are entries. Aliases may refer to each other in cycles: one that is open
already is mentioned by name, and it is an entry as well. -/

namespace SchemaGo

namespace Model.Index

/-- Every reference is to an entry. -/
def ReferencesDeclared (x : Index) : Prop :=
  ∀ n ∈ x.nodes, ∀ target ∈ n.reference, target ∈ x.keys

instance (x : Index) : Decidable x.ReferencesDeclared :=
  inferInstanceAs (Decidable (∀ n ∈ x.nodes, ∀ target ∈ n.reference, target ∈ x.keys))

theorem ReferencesDeclared.withContextNames {x : Index} (h : x.ReferencesDeclared) :
    x.withContextNames.ReferencesDeclared := by
  intro m hm target href
  obtain ⟨n, hnm⟩ := x.exists_node_before hm
  have hkept := List.forall₂_zip x.nodes_kept hnm
  rw [keys_withContextNames]
  exact h n (List.of_mem_zip hnm).1 target (hkept.reference_eq ▸ href)

end Model.Index

namespace Generate

open Model (Index ModelNode)
open Render (Field structFields)

theorem node_mem_children {m : ModelNode} {f : Field} (h : f ∈ structFields m) :
    f.node ∈ m.children := by
  simp only [structFields, List.mem_append, List.mem_map] at h
  simp only [ModelNode.children_eq, List.mem_append, List.mem_map]
  rcases h with (⟨p, hp, rfl⟩ | ⟨n, hn, rfl⟩) | ⟨p, hp, rfl⟩
  · exact .inl (.inl (.inl (.inl (.inl ⟨p, hp, rfl⟩))))
  · exact .inl (.inl (.inl (.inl (.inr hn))))
  · exact .inl (.inl (.inl (.inr ⟨p, hp, rfl⟩)))

/-- What the type of a node of the index mentions is the type name of a reachable model. -/
theorem mentioned_reachable {x : Index} (hx : x.KeyedByName) (references : x.ReferencesDeclared)
    {n : ModelNode} (hn : n ∈ x.nodes) {name : String}
    (hname : (TypeExpr.of x n).name? = some name) :
    ∃ d ∈ x.reachable, ∃ id, d.id = some id ∧ typeName id = name := by
  obtain ⟨v, hv, hdeclared | ⟨target, href, rfl⟩⟩ := TypeExpr.name?_of hname
  all_goals
    have hnode : v ∈ x.nodes := by
      rcases hv with hv | hv
      · rcases List.mem_cons.1 hv with rfl | hv
        · exact hn
        · exact Index.mem_nodes_of_mem_descendants hn hv
      · exact hv
  · obtain ⟨hkind, id, hid, rfl⟩ := TypeExpr.declaredName?_eq_some hdeclared
    obtain ⟨d, hd, hdname⟩ := Index.exists_reachable_of_declared hx hnode hkind hid
    exact ⟨d, hd, id, hdname, rfl⟩
  · obtain ⟨d, hd, hdname⟩ := Index.exists_reachable_of_key hx (references v hnode target href)
    exact ⟨d, hd, target, hdname, rfl⟩

/-- Every type that a field of a reachable model mentions is generated. -/
theorem packages_closed (l : List ModelNode) (references : (Index.ofModels l).ReferencesDeclared)
    {m : ModelNode} (hm : m ∈ (Index.ofModels l).withContextNames.reachable) {f : Field}
    (hf : f ∈ structFields m) {name : String}
    (hname : (TypeExpr.of (Index.ofModels l).withContextNames f.node).name? = some name) :
    ∃ d ∈ (Index.ofModels l).withContextNames.reachable,
      (∃ id, d.id = some id ∧ typeName id = name) ∧
      ∀ g : Generator, (g.render d (Index.ofModels l).withContextNames).map (outputModel d) ∈
        g.generate (Index.ofModels l) := by
  have hkeyed := (Index.keyedByName_ofModels l).withContextNames
  have hnode : f.node ∈ (Index.ofModels l).withContextNames.nodes :=
    Index.mem_nodes_of_mem_descendants (Index.reachable_subset_nodes hm)
      (ModelNode.mem_descendants_of_child (node_mem_children hf))
  obtain ⟨d, hd, hid⟩ := mentioned_reachable hkeyed references.withContextNames hnode hname
  exact ⟨d, hd, hid, fun g => g.render_mem_generate hd⟩

/-! ### A document with an inline model in an alias -/

/-- A list of objects that have no name of their own. -/
def listing : ModelNode where
  id := some "list"
  type := some (.single .array)
  items := some
    { type := some (.single .object), properties := [("c", { type := some (.single .string) })] }

/-- A struct whose field refers to the list. -/
def linked : ModelNode where
  id := some "s"
  type := some (.single .object)
  properties := [("f", { reference := some "list" })]

/-- The field mentions `ListItem`, the type of the objects in the list, which is generated. -/
theorem packages_closed_listing :
    (Index.ofModels [listing, linked]).ReferencesDeclared ∧
      ∃ m ∈ (Index.ofModels [listing, linked]).withContextNames.reachable, ∃ f ∈ structFields m,
        (TypeExpr.of (Index.ofModels [listing, linked]).withContextNames f.node).name? =
          some "ListItem" ∧
        ∃ d ∈ (Index.ofModels [listing, linked]).withContextNames.reachable,
          (∃ id, d.id = some id ∧ typeName id = "ListItem") ∧
          ∀ g : Generator,
            (g.render d (Index.ofModels [listing, linked]).withContextNames).map (outputModel d) ∈
              g.generate (Index.ofModels [listing, linked]) := by
  have references : (Index.ofModels [listing, linked]).ReferencesDeclared := by decide
  let m := (Index.ofModels [listing, linked]).withContextNames.reachable[2]
  have hm : m ∈ (Index.ofModels [listing, linked]).withContextNames.reachable :=
    List.getElem_mem (by decide)
  have hf : (structFields m)[0] ∈ structFields m := List.getElem_mem (by decide)
  have hname : (TypeExpr.of (Index.ofModels [listing, linked]).withContextNames
      (structFields m)[0].node).name? = some "ListItem" := by decide
  exact ⟨references, m, hm, _, hf, hname, packages_closed _ references hm hf hname⟩

end Generate

end SchemaGo
