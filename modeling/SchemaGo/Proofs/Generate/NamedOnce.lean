import SchemaGo.Proofs.Generate.InlineModel
import SchemaGo.Proofs.Model.Settled
import SchemaGo.Proofs.Type.Transparent

/-! Models are named once. Rendering names what is nested in a model, but the models of a document are
named before they are rendered, and below each of them nothing is left to name. So each one is rendered
as it is listed, and where a nested model stands its type is the one that is declared for it. -/

namespace SchemaGo

namespace Model.Index

/-- Below the reachable models of the named index nothing is left to name. -/
theorem settled_of_reachable {x : Index} (hx : x.KeyedByName) {m : ModelNode}
    (h : m ∈ x.withContextNames.reachable) : ∀ c ∈ m.descendants, c.Settled := by
  have hentries : ∀ e ∈ x.withContextNames.models, ∀ c ∈ e.descendants, c.Settled := by
    intro e he
    obtain ⟨p, hp, rfl⟩ := List.mem_map.1 he
    exact x.settled_withContextNames p.2 he (by simp [hx.withContextNames p hp])
  rcases mem_reachable h with hm | ⟨⟨e, he, hm⟩, -⟩
  · exact hentries m hm
  · exact fun c hc => hentries e he c (ModelNode.mem_descendants_trans hm hc)

theorem nameNested_reachable {x : Index} (hx : x.KeyedByName) {m : ModelNode}
    (h : m ∈ x.withContextNames.reachable) : x.withContextNames.nameNested m = m :=
  ModelNode.nameNested_settled (settled_of_reachable hx h) _

end Model.Index

namespace Generate

open Model (Index ModelNode)

/-- The node `c` of a named index is written as the type of the model that is declared for it; that model
is the node itself if its name is a new one. -/
def TypedAsDeclared (x : Index) (c : ModelNode) : Prop :=
  ∃ d ∈ x.withContextNames.reachable, ∃ id, c.id = some id ∧ d.id = some id ∧
    (id ∉ x.ids → d = c) ∧
    ∀ o, (outputModel d o).typeName ≠ "" → c.reference = none →
      (TypeExpr.of x.withContextNames c).text = (outputModel d o).typeName

/-- A document is named once: the named index and its reachable models are left as they are by another
naming, each model is rendered as it is listed, and every struct and enum nested in it has the type that is
declared for it, whether it is written inline or has a name of its own. -/
structure NamedOnce (x : Index) : Prop where
  index : x.withContextNames.withContextNames = x.withContextNames
  model : ∀ m ∈ x.withContextNames.reachable, x.withContextNames.nameNested m = m
  struct : ∀ (g : Generator), ∀ m ∈ x.withContextNames.reachable,
    g.renderStruct m x.withContextNames =
      collect (Render.renderStruct (g.renderer x.withContextNames) g.structStack m)
  enum : ∀ (g : Generator), ∀ m ∈ x.withContextNames.reachable,
    g.renderEnum m x.withContextNames =
      collect (Render.renderEnum (g.renderer x.withContextNames) g.enumStack m)
  nested : ∀ m ∈ x.withContextNames.reachable, ∀ c ∈ m.descendants,
    c.needsDeclaration = true ∨ c.kind ≠ .other ∧ c.id.isSome → TypedAsDeclared x c

theorem typedAsDeclared {x : Index} (hx : x.KeyedByName) {c : ModelNode}
    (hc : c ∈ x.withContextNames.nodes) (hkind : c.kind ≠ .other) {id : String} (hid : c.id = some id) :
    TypedAsDeclared x c := by
  obtain ⟨d, hd, hdid⟩ := Index.exists_reachable_of_declared hx.withContextNames hc hkind hid
  refine ⟨d, hd, id, hid, hdid, fun hnew => ?_, fun o hname hreference => ?_⟩
  · obtain ⟨n, hpair⟩ := x.exists_node_before hc
    have anonymous : n.id = none := by
      cases hn : n.id with
      | none => rfl
      | some a =>
        -- a node that had a name keeps it, and this one is new
        have hkept := (List.forall₂_zip x.nodes_kept hpair).id_eq a hn
        obtain rfl : a = id := Option.some.inj (hkept.symm.trans hid)
        rw [Index.ids_eq] at hnew
        exact absurd (List.mem_filterMap.2 ⟨n, (List.of_mem_zip hpair).1, hn⟩) hnew
    exact Index.gained_unique hpair anonymous hid (Index.reachable_subset_nodes hd) hdid
  · have htype : (outputModel d o).typeName = typeName id := by simp [outputModel, hdid]
    rw [htype] at hname ⊢
    exact TypeExpr.text_of_declared hid hkind hname hreference

/-- Every document that insertions build is named once. -/
theorem named_once (l : List ModelNode) : NamedOnce (Index.ofModels l) := by
  have hx := Index.keyedByName_ofModels l
  refine ⟨Index.withContextNames_idem _, fun m hm => Index.nameNested_reachable hx hm,
    fun g m hm => ?_, fun g m hm => ?_, fun m hm c hc hnested => ?_⟩
  · rw [Generator.renderStruct, Index.nameNested_reachable hx hm]
  · rw [Generator.renderEnum, Index.nameNested_reachable hx hm]
  · have hnode := Index.mem_nodes_of_mem_descendants (Index.reachable_subset_nodes hm) hc
    have hsettled := Index.settled_of_reachable hx hm c hc
    rcases hnested with needs | ⟨hkind, hid⟩
    · have hnamed : c.id ≠ none := fun anonymous => by simp [hsettled anonymous] at needs
      obtain ⟨id, hid⟩ := Option.ne_none_iff_exists'.1 hnamed
      exact typedAsDeclared hx hnode (ModelNode.kind_ne_other needs) hid
    · obtain ⟨id, hid⟩ := Option.isSome_iff_exists.1 hid
      exact typedAsDeclared hx hnode hkind hid

/-- The `point` in a `holder` gets the name `a_b`, and the field that holds it has the type `AB`. -/
theorem named_once_holder :
    ∃ m ∈ (Index.ofModels [holder (some "a")]).withContextNames.reachable, ∃ c ∈ m.descendants,
      c.needsDeclaration = true ∧
      (Index.ofModels [holder (some "a")]).withContextNames.nameNested m = m ∧
      (TypeExpr.of (Index.ofModels [holder (some "a")]).withContextNames c).text = "AB" := by
  let m := (Index.ofModels [holder (some "a")]).withContextNames.reachable[0]
  have hm : m ∈ (Index.ofModels [holder (some "a")]).withContextNames.reachable :=
    List.getElem_mem (by decide)
  have hc : m.descendants[0] ∈ m.descendants := List.getElem_mem (by decide)
  have hnamed := named_once [holder (some "a")]
  obtain ⟨d, -, id, hid, hdid, -, htype⟩ := hnamed.nested m hm m.descendants[0] hc (.inl rfl)
  obtain rfl : "a_b" = id := Option.some.inj ((by decide : m.descendants[0].id = some "a_b").symm.trans hid)
  have hname : (outputModel d ⟨"", []⟩).typeName = "AB" := by
    simp only [outputModel, hdid]
    decide +kernel
  exact ⟨m, hm, _, hc, rfl, hnamed.model m hm,
    (htype ⟨"", []⟩ (by simp [hname]) rfl).trans hname⟩

end Generate

end SchemaGo
