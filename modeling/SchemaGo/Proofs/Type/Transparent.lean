import SchemaGo.Proofs.Model.Insertion
import SchemaGo.Proofs.Type.Recursion

/-! References as their targets. If no alias comes back to itself, none is asked for while it is open, so
the type of a node is the one that the recursion without open aliases gives it, and it stays the same
when references to aliases are replaced by copies of the aliases. A reference to a struct or an enum has
the type that the entry has in the place of the reference. -/

namespace SchemaGo.TypeExpr

open Model (Index ModelNode)
open Model.ModelNode (childInduction mem_descendants)
open Relation (ReflTransGen TransGen transGen_swap)

/-! ### Aliases without cycles -/

/-- The type of a node asks for that of another one: of a child, or of the alias that it refers to. -/
inductive Asks (x : Index) : ModelNode → ModelNode → Prop
  | child {n c : ModelNode} (reference : n.reference = none) (unnamed : declaredName? n = none)
      (h : c ∈ asked n) : Asks x n c
  | opening {n m : ModelNode} {target : String} (reference : n.reference = some target)
      (h : alias? x target = some m) : Asks x n m

/-- No alias comes back to itself through references. References that no type is taken from do not
count. -/
def AliasesAcyclic (x : Index) : Prop :=
  ∀ key m, alias? x key = some m → ¬ TransGen (Asks x) m m

theorem Calls.asks {x : Index} {p q : Point} (h : Calls x p q) : Asks x p.node q.node := by
  cases h with
  | child reference unnamed h => exact .child reference unnamed h
  | opening reference h _ => exact .opening reference h

/-- All aliases that are open lead to the node. -/
def Behind (x : Index) (p : Point) : Prop :=
  ∀ key ∈ p.opened, ∃ m, alias? x key = some m ∧ ReflTransGen (Asks x) m p.node

theorem behind_nil (x : Index) (n : ModelNode) : Behind x ⟨[], n⟩ :=
  fun _ h => absurd h List.not_mem_nil

theorem Behind.call {x : Index} {p q : Point} (hp : Behind x p) (h : Calls x p q) : Behind x q := by
  intro key hkey
  have hasks := h.asks
  cases h with
  | child _ _ _ =>
    obtain ⟨m, halias, hleads⟩ := hp key hkey
    exact ⟨m, halias, hleads.tail hasks⟩
  | opening _ halias _ =>
    rcases List.mem_cons.1 hkey with rfl | hkey
    · exact ⟨_, halias, .refl⟩
    · obtain ⟨m, halias', hleads⟩ := hp key hkey
      exact ⟨m, halias', hleads.tail hasks⟩

/-- Without cycles a reference is not to an alias that is open. -/
theorem Behind.not_mem {x : Index} (acyclic : AliasesAcyclic x) {p : Point} (hp : Behind x p)
    {target : String} (hreference : p.node.reference = some target) : target ∉ p.opened := by
  intro hopened
  obtain ⟨m, halias, hleads⟩ := hp target hopened
  exact acyclic target m halias (.tail' hleads (.opening hreference halias))

/-- What is asked for is called. -/
theorem Behind.exists_calls {x : Index} (acyclic : AliasesAcyclic x) {p : Point} (hp : Behind x p)
    {c : ModelNode} (h : Asks x p.node c) : ∃ opened, Calls x p ⟨opened, c⟩ := by
  cases h with
  | child reference unnamed h => exact ⟨p.opened, .child reference unnamed h⟩
  | opening reference h => exact ⟨_, .opening reference h (hp.not_mem acyclic reference)⟩

theorem wellFounded_asks {x : Index} (acyclic : AliasesAcyclic x) :
    WellFounded fun c n => Asks x n c := by
  have hacc : ∀ p, Behind x p → Acc (fun c n => Asks x n c) p.node := by
    intro p
    induction p using (wellFounded_calls x).induction with
    | _ p ih =>
      refine fun hp => .intro _ fun c hc => ?_
      obtain ⟨opened, hcall⟩ := hp.exists_calls acyclic hc
      exact ih _ hcall (hp.call hcall)
  exact ⟨fun n => hacc ⟨[], n⟩ (behind_nil x n)⟩

/-- The text at a point does not go by what is open. -/
theorem Behind.text_eq {x : Index} (acyclic : AliasesAcyclic x) {p : Point} (hp : Behind x p) :
    (typeAt x p).text = (typeAt x ⟨[], p.node⟩).text := by
  obtain ⟨opened, n⟩ := p
  induction n using (wellFounded_asks acyclic).induction generalizing opened with
  | _ n ih =>
    have hcalls : ∀ q, Calls x ⟨opened, n⟩ q → (typeAt x q).text = (typeAt x ⟨[], q.node⟩).text :=
      fun q hq => ih q.node hq.asks q.opened (hp.call hq)
    have hplain : ∀ q, Calls x ⟨[], n⟩ q → (typeAt x q).text = (typeAt x ⟨[], q.node⟩).text :=
      fun q hq => ih q.node hq.asks q.opened ((behind_nil x n).call hq)
    rw [text_typeAt x ⟨opened, n⟩, text_typeAt x ⟨[], n⟩, pointText_congr hcalls,
      pointText_congr hplain]
    refine nodeText_congr rfl rfl (fun target hreference => ?_) fun _ _ => rfl
    simp [hp.not_mem acyclic hreference]

/-- The aliases have ranks, and references in an alias are to keys of lower rank. -/
theorem aliasesAcyclic_of_rank {x : Index} (rank : String → Nat)
    (h : ∀ p ∈ x.entries, ∀ v ∈ p.2 :: p.2.descendants, ∀ target ∈ v.reference,
      rank target < rank p.1) : AliasesAcyclic x := by
  have hacc : ∀ k n, (∀ v ∈ n :: n.descendants, ∀ target ∈ v.reference, rank target < k) →
      Acc (fun c n => Asks x n c) n := by
    intro k
    induction k using Nat.strongRecOn with
    | ind k ihk =>
      intro n
      induction n using childInduction with
      | step n ihn =>
        refine fun hbelow => .intro n fun c hc => ?_
        cases hc with
        | child _ _ hasked =>
          have hchild := asked_subset n hasked
          refine ihn c hchild fun v hv => hbelow v ?_
          exact List.mem_cons_of_mem _ (mem_descendants.2 ⟨c, hchild, List.mem_cons.1 hv⟩)
        | @opening target hreference halias =>
          obtain ⟨hget, -⟩ := Option.filter_eq_some_iff.1 halias
          exact ihk (rank target) (hbelow n List.mem_cons_self target hreference) c
            (h (target, c) (Index.get?_iff_mem.1 hget))
  have hirrefl : ∀ m, Acc (TransGen fun c n => Asks x n c) m → ¬ TransGen (fun c n => Asks x n c) m m := by
    intro m hm
    induction hm with
    | intro m _ ih => exact fun hcycle => ih m hcycle hcycle
  intro key m halias hcycle
  obtain ⟨hget, -⟩ := Option.filter_eq_some_iff.1 halias
  have hm := hacc (rank key) m (h (key, m) (Index.get?_iff_mem.1 hget))
  exact hirrefl m hm.transGen (transGen_swap.2 hcycle)

/-! ### The recursion without open aliases -/

/-- The text of a node's type, where `type` gives the texts of the types of other nodes. -/
def plainText (x : Index) (type : ModelNode → String) (n : ModelNode) : String :=
  nodeText (fun target => (alias? x target).map type) type n

theorem plainText_eq (x : Index) (type : ModelNode → String) (n : ModelNode) :
    plainText x type n = pointText x (fun p => type p.node) ⟨[], n⟩ := by
  simp [plainText, pointText]

theorem plainText_congr {x : Index} {f g : ModelNode → String} {n : ModelNode}
    (h : ∀ c, Asks x n c → f c = g c) : plainText x f n = plainText x g n := by
  rw [plainText_eq, plainText_eq]
  exact pointText_congr fun q hq => h q.node hq.asks

theorem text_of {x : Index} (acyclic : AliasesAcyclic x) (n : ModelNode) :
    (of x n).text = plainText x (fun m => (of x m).text) n := by
  have hcalls : ∀ q, Calls x ⟨[], n⟩ q → (typeAt x q).text = (of x q.node).text := by
    intro q hq
    rw [of_eq_typeAt]
    exact ((behind_nil x n).call hq).text_eq acyclic
  rw [of_eq_typeAt, text_typeAt, pointText_congr hcalls, plainText_eq]

/-- Texts that satisfy the recursion are those of the types. -/
theorem eq_text_of {x : Index} (acyclic : AliasesAcyclic x) {f : ModelNode → String}
    (hf : ∀ n, f n = plainText x f n) (n : ModelNode) : f n = (of x n).text := by
  induction n using (wellFounded_asks acyclic).induction with
  | _ n ih => rw [hf, text_of acyclic, plainText_congr ih]

/-! ### Copies of aliases -/

/-- The second node is the first one with copies in the places of some references to aliases, where a
copy is again the alias with copies in it. -/
inductive Inlined (x : Index) : ModelNode → ModelNode → Prop
  | copy {n m m' : ModelNode} {target : String} (reference : n.reference = some target)
      (h : alias? x target = some m) (rest : Inlined x m m') : Inlined x n m'
  | node {n : ModelNode} {properties patterns : List (String × ModelNode)}
      {additional items : Option ModelNode} {tuple variants : List ModelNode}
      (keys : n.properties.map (·.1) = properties.map (·.1))
      (hproperties : List.Forall₂ (Inlined x) (n.properties.map (·.2)) (properties.map (·.2)))
      (hadditional : Option.Rel (Inlined x) n.additionalProperties additional)
      (patternKeys : n.patternProperties.map (·.1) = patterns.map (·.1))
      (hpatterns : List.Forall₂ (Inlined x) (n.patternProperties.map (·.2)) (patterns.map (·.2)))
      (hitems : Option.Rel (Inlined x) n.items items)
      (htuple : List.Forall₂ (Inlined x) n.tupleItems tuple)
      (hvariants : List.Forall₂ (Inlined x) n.variants variants) :
      Inlined x n { n with
        properties := properties, additionalProperties := additional, patternProperties := patterns,
        items := items, tupleItems := tuple, variants := variants }

theorem Inlined.refl (x : Index) (n : ModelNode) : Inlined x n n := by
  induction n using childInduction with
  | step n ih =>
    have hlist : ∀ l : List ModelNode, l ⊆ n.children → List.Forall₂ (Inlined x) l l :=
      fun l hl => List.forall₂_same.2 fun c hc => ih c (hl hc)
    have hoption : ∀ o : Option ModelNode, o.toList ⊆ n.children → Option.Rel (Inlined x) o o := by
      rintro (_ | c) ho
      · exact .none
      · exact .some (ih c (ho (by simp)))
    rw [ModelNode.children_eq] at hlist hoption
    have hnode := Inlined.node (x := x) (n := n) rfl (hlist _ (by grind)) (hoption _ (by grind)) rfl
      (hlist _ (by grind)) (hoption _ (by grind)) (hlist _ (by grind)) (hlist _ (by grind))
    cases n
    exact hnode

/-- Copies in the places of references to aliases leave the type of a node as it is. -/
theorem Inlined.text_eq {x : Index} (acyclic : AliasesAcyclic x) {n n' : ModelNode}
    (h : Inlined x n n') : (of x n').text = (of x n).text := by
  induction n using (wellFounded_asks acyclic).induction generalizing n' with
  | _ n ih =>
    rw [text_of acyclic n]
    cases h with
    | copy reference halias hrest =>
      rw [ih _ (.opening reference halias) hrest]
      simp [plainText, nodeText, reference, halias]
    | node keys _ hadditional _ _ hitems htuple hvariants =>
      rw [text_of acyclic]
      have hempty := congrArg List.isEmpty keys
      rw [List.isEmpty_map, List.isEmpty_map] at hempty
      -- the name of a struct or an enum does not go by the children
      refine Eq.symm (nodeText_congr rfl rfl (fun _ _ => rfl) fun hreference hname => ?_)
      refine tagText_congr (R := Inlined x) ?_ fun c hc c' hcopy => ?_
      · exact ⟨rfl, hempty, hadditional, hitems, htuple, hvariants⟩
      · exact (ih c (.child hreference hname hc) hcopy).symm

/-! ### References to structs and enums -/

theorem text_of_reference {x : Index} {n m : ModelNode} {target : String}
    (hreference : n.reference = some target) (hget : x.get? target = some m) (hkind : m.kind ≠ .other) :
    (of x n).text = nameText (typeName target) := by
  have halias : alias? x target = none := by simp [alias?, hget, Option.filter, hkind]
  rw [of_eq_typeAt, text_typeAt]
  simp [pointText, nodeText, hreference, halias]

theorem text_of_declared {x : Index} {m : ModelNode} {id : String} (hid : m.id = some id)
    (hkind : m.kind ≠ .other) (hname : typeName id ≠ "") (hreference : m.reference = none) :
    (of x m).text = typeName id := by
  have hdeclared : declaredName? m = some (typeName id) := by
    simp [declaredName?, hkind, hid, Option.filter, hname]
  rw [of_eq_typeAt, text_typeAt]
  simp [pointText, nodeText, hreference, hdeclared]

/-! ### Transparency -/

/-- References are transparent in an index that is built by insertions and has no cycle of aliases. The
recursion without open aliases ends, so one function satisfies it, and it gives every node the text of
its type; that text stays the same when references to aliases are replaced by copies of the aliases; and
a reference to a struct or an enum has the text of its type name, which the entry has in its place as
well. -/
theorem references_transparent (l : List ModelNode) (acyclic : AliasesAcyclic (.ofModels l)) :
    (WellFounded fun c n => Asks (.ofModels l) n c) ∧
      (∀ n f g, (∀ c, Asks (.ofModels l) n c → f c = g c) →
        plainText (.ofModels l) f n = plainText (.ofModels l) g n) ∧
      (∀ f, (∀ n, f n = plainText (.ofModels l) f n) ↔ ∀ n, f n = (of (.ofModels l) n).text) ∧
      (∀ n n', Inlined (.ofModels l) n n' → (of (.ofModels l) n').text = (of (.ofModels l) n).text) ∧
      ∀ n target m, n.reference = some target → (Index.ofModels l).get? target = some m →
        m.kind ≠ .other →
        ∃ id, m.id = some id ∧ (of (.ofModels l) n).text = nameText (typeName id) ∧
          (typeName id ≠ "" → m.reference = none →
            (of (.ofModels l) m).text = (of (.ofModels l) n).text) := by
  refine ⟨wellFounded_asks acyclic, fun _ _ _ => plainText_congr, fun f => ⟨eq_text_of acyclic, ?_⟩,
    fun _ _ h => h.text_eq acyclic, fun n target m hreference hget hkind => ?_⟩
  · intro hf n
    obtain rfl : f = fun n => (of (.ofModels l) n).text := funext hf
    exact text_of acyclic n
  · have hid : m.id = some target :=
      Index.keyedByName_ofModels l (target, m) (Index.get?_iff_mem.1 hget)
    have htext := text_of_reference hreference hget hkind
    refine ⟨target, hid, htext, fun hname hown => ?_⟩
    rw [text_of_declared hid hkind hname hown, htext, nameText, if_neg (by simpa using hname)]

/-! ### A list of addresses -/

/-- A text, and lists of it. -/
def addresses : List ModelNode :=
  [{ id := some "address", type := some (.single .string) },
    { id := some "list", type := some (.single .array), items := some { reference := some "address" } },
    { id := some "person", type := some (.single .object),
      properties := [("all", { reference := some "list" })] }]

/-- A pair of lists, where one is a reference. -/
def pairOf (second : ModelNode) : ModelNode where
  type := some (.single .tuple)
  tupleItems := [{ reference := some "list" }, second]

theorem references_transparent_addresses :
    AliasesAcyclic (.ofModels addresses) ∧
      (of (.ofModels addresses) (pairOf addresses[1])).text =
        (of (.ofModels addresses) (pairOf { reference := some "list" })).text := by
  have acyclic : AliasesAcyclic (.ofModels addresses) :=
    aliasesAcyclic_of_rank (fun key => if key = "address" then 0 else if key = "list" then 1 else 2)
      (by decide)
  obtain ⟨-, -, -, hcopies, -⟩ := references_transparent addresses acyclic
  refine ⟨acyclic, hcopies _ _ ?_⟩
  have hsame : ∀ n, Inlined (.ofModels addresses) n n := Inlined.refl _
  exact .node (n := pairOf { reference := some "list" }) rfl .nil .none rfl .nil .none
    (.cons (hsame _) (.cons (.copy rfl rfl (hsame _)) .nil)) .nil

end SchemaGo.TypeExpr
