import SchemaGo.Proofs.Model.FreeName

/-! Names and places. The place of a node is the name of the nearest node above it that has one, joined
with the positions in between, so the places of a named tree can be read off the tree. Main statement:
naming a tree gives the only tree in which every node has the name that it claims at its place, the nodes
claiming one after the other. -/

namespace SchemaGo.Model.ModelNode

/-! ### Trees and their children -/

theorem positions_unnamed (n : ModelNode) :
    n.unnamed.positions.map (·.1) = n.positions.map (·.1) := by
  rw [unnamed_eq]
  simp [positions, Function.comp_def, Option.toList_map, List.zipIdx_map]

/-- The children of trees that differ in names only stand at the same positions. -/
theorem positions_eq {n m : ModelNode} (h : m.unnamed = n.unnamed) :
    m.positions = (n.positions.map (·.1)).zip m.children := by
  have hsame : m.positions.map (·.1) = n.positions.map (·.1) := by
    rw [← positions_unnamed, h, positions_unnamed]
  exact List.zip_of_prod hsame rfl

theorem setId_eq {n : ModelNode} {id : Option String} (h : n.id = id) : { n with id } = n := by
  subst h
  cases n; rfl

/-- A tree is made up of what it is without names, its own name and its children. -/
theorem eq_of_children {n m : ModelNode} (hid : n.id = m.id) (h : n.unnamed = m.unnamed)
    (hchildren : n.children = m.children) : n = m := by
  have hentries : ∀ l l' : List (String × ModelNode),
      (l.map fun p => (p.1, p.2.unnamed)) = (l'.map fun p => (p.1, p.2.unnamed)) →
      l.map (·.2) = l'.map (·.2) → l = l' := by
    intro l l' hkeys hnodes
    have hfst : l.map (·.1) = l'.map (·.1) := by
      simpa [Function.comp_def] using congrArg (List.map Prod.fst) hkeys
    rw [List.zip_of_prod hfst hnodes, ← List.zip_of_prod rfl rfl]
  have hoption : ∀ o o' : Option ModelNode, o.toList = o'.toList → o = o' := by
    rintro (_ | c) (_ | c') <;> simp
  have hlength : ∀ o o' : Option ModelNode, o.map unnamed = o'.map unnamed →
      o.toList.length = o'.toList.length := by
    rintro (_ | c) (_ | c') <;> simp
  rw [unnamed_eq, unnamed_eq, mk.injEq] at h
  obtain ⟨-, htype, hproperties, hrequired, hadditional, hpatterns, hitems, htuple, hvariants,
    hreference, hvalues⟩ := h
  -- the lists of children have the same lengths, so the two concatenations agree part by part
  rw [children_eq, children_eq] at hchildren
  have lproperties := congrArg List.length hproperties
  have lpatterns := congrArg List.length hpatterns
  have ltuple := congrArg List.length htuple
  have lvariants := congrArg List.length hvariants
  simp only [List.length_map] at lproperties lpatterns ltuple lvariants
  obtain ⟨hchildren, evariants⟩ := List.append_inj' hchildren lvariants
  obtain ⟨hchildren, etuple⟩ := List.append_inj' hchildren ltuple
  obtain ⟨hchildren, eitems⟩ := List.append_inj' hchildren (hlength _ _ hitems)
  obtain ⟨hchildren, epatterns⟩ := List.append_inj' hchildren (by simpa using lpatterns)
  obtain ⟨eproperties, eadditional⟩ := List.append_inj' hchildren (hlength _ _ hadditional)
  cases n
  cases m
  simp only [mk.injEq]
  exact ⟨hid, htype, hentries _ _ hproperties eproperties, hrequired, hoption _ _ eadditional,
    hentries _ _ hpatterns epatterns, hoption _ _ eitems, etuple, evariants, hreference, hvalues⟩

/-! ### Places -/

mutual

/-- The places of the nodes below a node whose context is `context`, in the order of the walk. -/
def placesBelow (context : String) : ModelNode → List String
  | ⟨_, _, properties, _, additional, patterns, items, tuple, variants, _, _⟩ =>
    entryPlaces .property context properties ++ optionPlaces .additionalProperties context additional
      ++ entryPlaces .patternProperty context patterns ++ optionPlaces .item context items
      ++ listPlaces .tupleItem context 0 tuple ++ listPlaces .variant context 0 variants

def entryPlaces (position : String → Position) (context : String) :
    List (String × ModelNode) → List String
  | [] => []
  | (key, n) :: r =>
    let place := context ++ "_" ++ (position key).segment
    place :: placesBelow (n.id.getD place) n ++ entryPlaces position context r

def optionPlaces (position : Position) (context : String) : Option ModelNode → List String
  | none => []
  | some n =>
    let place := context ++ "_" ++ position.segment
    place :: placesBelow (n.id.getD place) n

def listPlaces (position : Nat → Position) (context : String) (i : Nat) :
    List ModelNode → List String
  | [] => []
  | n :: r =>
    let place := context ++ "_" ++ (position i).segment
    place :: placesBelow (n.id.getD place) n ++ listPlaces position context (i + 1) r

end

/-- The place of a node and the places of those below it. -/
def placesAt (place : String) (n : ModelNode) : List String :=
  place :: placesBelow (n.id.getD place) n

/-- The places of some nodes at their positions and of those below them. -/
def placesIn (context : String) (l : List (Position × ModelNode)) : List String :=
  l.flatMap fun p => placesAt (context ++ "_" ++ p.1.segment) p.2

theorem entryPlaces_eq (position : String → Position) (context : String)
    (l : List (String × ModelNode)) :
    entryPlaces position context l = placesIn context (l.map fun (k, c) => (position k, c)) := by
  induction l with
  | nil => rfl
  | cons p r ih => simp [entryPlaces, ih, placesIn, placesAt]

theorem optionPlaces_eq (position : Position) (context : String) (o : Option ModelNode) :
    optionPlaces position context o = placesIn context (o.toList.map (position, ·)) := by
  cases o <;> simp [optionPlaces, placesIn, placesAt]

theorem listPlaces_eq (position : Nat → Position) (context : String) (i : Nat) (l : List ModelNode) :
    listPlaces position context i l =
      placesIn context ((l.zipIdx i).map fun (c, i) => (position i, c)) := by
  induction l generalizing i with
  | nil => rfl
  | cons n r ih => simp [listPlaces, ih, placesIn, placesAt]

theorem placesBelow_eq (context : String) (n : ModelNode) :
    placesBelow context n = placesIn context n.positions := by
  cases n
  simp only [placesBelow, positions, placesIn, List.flatMap_append, entryPlaces_eq, optionPlaces_eq,
    listPlaces_eq]

theorem placesBelow_setId (context : String) (n : ModelNode) (id : Option String) :
    placesBelow context { n with id } = placesBelow context n := by
  cases n; rfl

theorem length_placesBelow (context : String) (n : ModelNode) :
    (placesBelow context n).length = n.descendants.length := by
  induction n using childInduction generalizing context with
  | step n ih =>
    rw [placesBelow_eq, placesIn, descendants_eq, children, List.length_flatMap, List.length_flatMap,
      List.map_map]
    congr 1
    refine List.map_congr_left fun p hp => ?_
    simp [placesAt, ih p.2 (List.mem_map.2 ⟨p, hp, rfl⟩)]

theorem length_placesAt (place : String) (n : ModelNode) :
    (placesAt place n).length = (n :: n.descendants).length := by
  simp [placesAt, length_placesBelow]

theorem length_descendants_eq {n m : ModelNode} (h : m.unnamed = n.unnamed) :
    m.descendants.length = n.descendants.length := by
  have := congrArg (·.descendants.length) h
  simpa [descendants_unnamed] using this

/-! ### Claims -/

/-- The names of nodes at places after all have been claimed one after the other, and the names taken
then. -/
def claimNames : List (String × ModelNode) → List String → List (Option String) × List String
  | [], taken => ([], taken)
  | (place, n) :: r, taken =>
    let claimed := claimName place n taken
    let rest := claimNames r claimed.2
    (claimed.1 :: rest.1, rest.2)

@[simp] theorem length_claimNames (l : List (String × ModelNode)) (taken : List String) :
    (claimNames l taken).1.length = l.length := by
  induction l generalizing taken with
  | nil => rfl
  | cons p r ih => simp [claimNames, ih]

theorem claimNames_append (l r : List (String × ModelNode)) (taken : List String) :
    claimNames (l ++ r) taken =
      ((claimNames l taken).1 ++ (claimNames r (claimNames l taken).2).1,
        (claimNames r (claimNames l taken).2).2) := by
  induction l generalizing taken with
  | nil => rfl
  | cons p l ih => simp [claimNames, ih]

theorem claimNames_append_eq_iff {l r : List (String × ModelNode)} {a b : List (Option String)}
    {taken taken' : List String} (h : l.length = a.length) :
    claimNames (l ++ r) taken = (a ++ b, taken') ↔
      ∃ t, claimNames l taken = (a, t) ∧ claimNames r t = (b, taken') := by
  rw [claimNames_append, Prod.mk.injEq]
  constructor
  · rintro ⟨hnames, htaken⟩
    obtain ⟨hl, hr⟩ := List.append_inj hnames (by rw [length_claimNames, h])
    exact ⟨_, Prod.ext hl rfl, Prod.ext hr htaken⟩
  · rintro ⟨t, hl, hr⟩
    simp [hl, hr]

/-- `m` is `n` with the names that the nodes below it claim at their places in `m`. -/
structure Claimed (context : String) (n m : ModelNode) (taken taken' : List String) : Prop where
  id_eq : m.id = n.id
  unnamed_eq : m.unnamed = n.unnamed
  names_eq : claimNames ((placesBelow context m).zip n.descendants) taken =
    (m.descendants.map (·.id), taken')

/-- `m` is `n` with the names that the node and those below it claim, the node at `place`. -/
structure ClaimedAt (place : String) (n m : ModelNode) (taken taken' : List String) : Prop where
  unnamed_eq : m.unnamed = n.unnamed
  names_eq : claimNames ((placesAt place m).zip (n :: n.descendants)) taken =
    ((m :: m.descendants).map (·.id), taken')

/-- The models `ms` are the children in `l` with the names that they claim in a node whose context is
`context`. -/
structure ClaimedIn (context : String) (l : List (Position × ModelNode)) (ms : List ModelNode)
    (taken taken' : List String) : Prop where
  unnamed_eq : ms.map unnamed = l.map fun p => p.2.unnamed
  names_eq : claimNames ((placesIn context ((l.map (·.1)).zip ms)).zip
      ((l.map (·.2)).flatMap fun c => c :: c.descendants)) taken =
    ((ms.flatMap fun d => d :: d.descendants).map (·.id), taken')

theorem claimedAt_iff {place : String} {n m : ModelNode} {taken taken' : List String} :
    ClaimedAt place n m taken taken' ↔ m.id = (claimName place n taken).1 ∧
      Claimed (m.id.getD place) n { m with id := n.id } (claimName place n taken).2 taken' := by
  constructor
  · rintro ⟨hunnamed, hnames⟩
    simp only [placesAt, List.zip_cons_cons, claimNames, List.map_cons, Prod.mk.injEq,
      List.cons.injEq] at hnames
    obtain ⟨⟨hid, hbelow⟩, htaken⟩ := hnames
    refine ⟨hid.symm, rfl, by rw [unnamed_setId, hunnamed], ?_⟩
    rw [placesBelow_setId, descendants_setId]
    exact Prod.ext hbelow htaken
  · rintro ⟨hid, -, hunnamed, hbelow⟩
    rw [unnamed_setId] at hunnamed
    rw [placesBelow_setId, descendants_setId] at hbelow
    refine ⟨hunnamed, ?_⟩
    simp only [placesAt, List.zip_cons_cons, claimNames, List.map_cons, ← hid, hbelow]

theorem claimedIn_cons {context : String} {position : Position} {n d : ModelNode}
    {l : List (Position × ModelNode)} {ms : List ModelNode} {taken taken' : List String} :
    ClaimedIn context ((position, n) :: l) (d :: ms) taken taken' ↔
      ∃ t, ClaimedAt (context ++ "_" ++ position.segment) n d taken t ∧
        ClaimedIn context l ms t taken' := by
  let place := context ++ "_" ++ position.segment
  have hsplit : d.unnamed = n.unnamed →
      (claimNames ((placesIn context ((((position, n) :: l).map (·.1)).zip (d :: ms))).zip
          ((((position, n) :: l).map (·.2)).flatMap fun c => c :: c.descendants)) taken =
          (((d :: ms).flatMap fun d => d :: d.descendants).map (·.id), taken') ↔
        ∃ t, claimNames ((placesAt place d).zip (n :: n.descendants)) taken =
            ((d :: d.descendants).map (·.id), t) ∧
          claimNames ((placesIn context ((l.map (·.1)).zip ms)).zip
              ((l.map (·.2)).flatMap fun c => c :: c.descendants)) t =
            ((ms.flatMap fun d => d :: d.descendants).map (·.id), taken')) := by
    intro htree
    have hlength : (placesAt place d).length = (n :: n.descendants).length := by
      rw [length_placesAt, List.length_cons, List.length_cons, length_descendants_eq htree]
    simp only [List.map_cons, List.zip_cons_cons, placesIn, List.flatMap_cons]
    rw [List.zip_append hlength, List.map_append]
    exact claimNames_append_eq_iff (by simp [hlength, length_descendants_eq htree])
  constructor
  · rintro ⟨hunnamed, hnames⟩
    obtain ⟨htree, htrees⟩ := List.cons.inj hunnamed
    obtain ⟨t, hd, hms⟩ := (hsplit htree).1 hnames
    exact ⟨t, ⟨htree, hd⟩, htrees, hms⟩
  · rintro ⟨t, ⟨htree, hd⟩, htrees, hms⟩
    exact ⟨by simp [htree, htrees], (hsplit htree).2 ⟨t, hd, hms⟩⟩

theorem nameChild_eq_iff {place : String} {n m : ModelNode} {taken taken' : List String}
    (law : ∀ context m taken taken', nameBelow context n taken = (m, taken') ↔
      Claimed context n m taken taken') :
    nameChild place n taken = (m, taken') ↔ ClaimedAt place n m taken taken' := by
  rw [claimedAt_iff, ← law, nameChild, Prod.mk.injEq]
  constructor
  · rintro ⟨rfl, rfl⟩
    have hid := id_nameBelow ((claimName place n taken).1.getD place) n (claimName place n taken).2
    refine ⟨rfl, Prod.ext ?_ rfl⟩
    exact (setId_eq hid).symm
  · rintro ⟨hid, hbelow⟩
    simp only [← hid, hbelow]
    exact ⟨setId_eq rfl, trivial⟩

theorem nameChildren_eq_iff {context : String} {l : List (Position × ModelNode)} {ms : List ModelNode}
    {taken taken' : List String}
    (law : ∀ p ∈ l, ∀ context m taken taken', nameBelow context p.2 taken = (m, taken') ↔
      Claimed context p.2 m taken taken') :
    nameChildren context l taken = (ms, taken') ↔ ClaimedIn context l ms taken taken' := by
  induction l generalizing ms taken with
  | nil =>
    constructor
    · intro h
      obtain ⟨rfl, rfl⟩ := Prod.mk.inj h
      exact ⟨rfl, rfl⟩
    · rintro ⟨hunnamed, hnames⟩
      obtain rfl : ms = [] := by simpa using hunnamed
      obtain ⟨-, rfl⟩ := Prod.mk.inj hnames
      rfl
  | cons p r ih =>
    obtain ⟨position, n⟩ := p
    obtain ⟨hn, hr⟩ := List.forall_mem_cons.1 law
    cases ms with
    | nil => exact ⟨fun h => by simp [nameChildren] at h, fun h => by simpa using h.unnamed_eq⟩
    | cons d ms =>
      rw [claimedIn_cons]
      simp only [← nameChild_eq_iff hn, ← ih hr, nameChildren, Prod.mk.injEq, List.cons.injEq]
      constructor
      · rintro ⟨⟨hd, hms⟩, htaken⟩
        exact ⟨_, Prod.ext hd rfl, Prod.ext hms htaken⟩
      · rintro ⟨t, hd, hms⟩
        simp [hd, hms]

/-- Naming gives every node the name that it claims at its place, and no other tree has these names. -/
theorem nameBelow_eq_iff {context : String} {n m : ModelNode} {taken taken' : List String} :
    nameBelow context n taken = (m, taken') ↔ Claimed context n m taken taken' := by
  induction n using childInduction generalizing context m taken taken' with
  | step n ih =>
    have hchildren := nameChildren_positions context n taken
    have hlaw : ∀ ms t, nameChildren context n.positions taken = (ms, t) ↔
        ClaimedIn context n.positions ms taken t := fun ms t =>
      nameChildren_eq_iff fun p hp _ _ _ _ => ih p.2 (List.mem_map.2 ⟨p, hp, rfl⟩)
    have hnames : ∀ m : ModelNode, m.unnamed = n.unnamed →
        (ClaimedIn context n.positions m.children taken taken' ↔
          claimNames ((placesBelow context m).zip n.descendants) taken =
            (m.descendants.map (·.id), taken')) := by
      intro m hm
      have htrees : m.children.map unnamed = n.positions.map fun p => p.2.unnamed := by
        rw [← children_unnamed, hm, children_unnamed, children, List.map_map]
        rfl
      rw [placesBelow_eq, positions_eq hm, descendants_eq n, descendants_eq m]
      exact ⟨fun h => h.names_eq, fun h => ⟨htrees, h⟩⟩
    constructor
    · intro h
      have hunnamed : m.unnamed = n.unnamed := by
        simpa [h] using unnamed_nameBelow context n taken
      refine ⟨by simpa [h] using id_nameBelow context n taken, hunnamed, (hnames m hunnamed).1 ?_⟩
      rw [← hlaw, hchildren, h]
    · rintro ⟨hid, hunnamed, hclaims⟩
      have hms := (hlaw _ _).2 ((hnames m hunnamed).2 hclaims)
      rw [hchildren, Prod.mk.injEq] at hms
      refine Prod.ext (eq_of_children ?_ ?_ hms.1) hms.2
      · rw [id_nameBelow, hid]
      · rw [unnamed_nameBelow, hunnamed]

end SchemaGo.Model.ModelNode
