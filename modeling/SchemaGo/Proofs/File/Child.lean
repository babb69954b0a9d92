import SchemaGo.File.Path

/-! Paths by their components: the root of an absolute path or the dot that starts a relative one, then
the parts that are not void. Paths of the same components lead to the same place. A file below a base has
one component more than the base, and what is left without it leads to the base again. -/

namespace SchemaGo.File

def isRooted (path : List Char) : Bool :=
  path.head? = some '/'

/-- What follows the slash of an absolute path. -/
def body (path : List Char) : List Char :=
  if isRooted path then path.drop 1 else path

/-- The parts that are not void, and the dot that starts a relative path. -/
def named (rooted : Bool) : List (List Char) → List (List Char)
  | [] => []
  | p :: ps => (if !isVoid p ∨ p = ['.'] ∧ !rooted then [p] else []) ++ ps.filter (!isVoid ·)

def components (path : String) : List String :=
  (if isRooted path.toList then ["/"] else []) ++
    (named (isRooted path.toList) (parts (body path.toList))).map String.ofList

example : components "/a//b/./" = ["/", "a", "b"] := by decide

/-! ### Parts -/

theorem parts_ne_nil (l : List Char) : parts l ≠ [] := by
  cases l with
  | nil => simp [parts]
  | cons c cs =>
    rw [parts]
    split
    · simp
    · split <;> simp

/-- A character in front of a path goes to its first part. -/
theorem parts_cons {c : Char} (hc : c ≠ '/') (l : List Char) :
    parts (c :: l) = (parts l).modifyHead (c :: ·) := by
  rw [parts, if_neg hc]
  split
  · next hnil => exact absurd hnil (parts_ne_nil l)
  · next heq => rw [heq, List.modifyHead_cons]

theorem parts_append (a b : List Char) : parts (a ++ '/' :: b) = parts a ++ parts b := by
  induction a with
  | nil => simp [parts]
  | cons c cs ih =>
    by_cases hc : c = '/'
    · subst hc
      simp [parts, ih]
    · obtain ⟨p, ps, heq⟩ := List.exists_cons_of_ne_nil (parts_ne_nil cs)
      rw [List.cons_append, parts_cons hc, parts_cons hc, ih, heq]
      rfl

theorem parts_of_not_mem {l : List Char} (h : '/' ∉ l) : parts l = [l] := by
  induction l with
  | nil => rfl
  | cons c cs ih =>
    obtain ⟨hc, hcs⟩ := not_or.1 (mt List.mem_cons.2 h)
    rw [parts_cons (Ne.symm hc), ih hcs]
    rfl

theorem not_mem_of_mem_parts {l p : List Char} (h : p ∈ parts l) : '/' ∉ p := by
  induction l generalizing p with
  | nil =>
    obtain rfl : p = [] := by simpa [parts] using h
    simp
  | cons c cs ih =>
    by_cases hc : c = '/'
    · rw [parts, if_pos hc] at h
      rcases List.mem_cons.1 h with rfl | hmem
      · simp
      · exact ih hmem
    · obtain ⟨q, qs, heq⟩ := List.exists_cons_of_ne_nil (parts_ne_nil cs)
      rw [parts_cons hc, heq, List.modifyHead_cons] at h
      rcases List.mem_cons.1 h with rfl | hmem
      · exact mt List.mem_cons.1 (not_or.2 ⟨Ne.symm hc, ih (by simp [heq])⟩)
      · exact ih (by simp [heq, hmem])

theorem parts_intercalate {l : List (List Char)} (h : ∀ p ∈ l, '/' ∉ p) (hne : l ≠ []) :
    parts (['/'].intercalate l) = l := by
  induction l with
  | nil => exact absurd rfl hne
  | cons p ps ih =>
    obtain ⟨hp, hps⟩ := List.forall_mem_cons.1 h
    cases ps with
    | nil => simpa using parts_of_not_mem hp
    | cons q qs =>
      rw [List.intercalate_cons_cons, List.append_assoc, List.singleton_append, parts_append,
        parts_of_not_mem hp, ih hps (by simp)]
      rfl

/-! ### Void parts -/

theorem named_append_void {rooted : Bool} {l : List (List Char)} {p : List Char} (hvoid : isVoid p = true)
    (hp : ¬ (p = ['.'] ∧ l = [] ∧ !rooted)) : named rooted (l ++ [p]) = named rooted l := by
  cases l with
  | nil =>
    have hdot : ¬ (p = ['.'] ∧ !rooted) := fun ⟨hdot, hrooted⟩ => hp ⟨hdot, rfl, hrooted⟩
    simp only [List.nil_append, named, hvoid, Bool.not_true, Bool.false_eq_true, false_or, if_neg hdot,
      List.filter_nil, List.append_nil]
  | cons q qs => simp [named, hvoid]

theorem named_append {rooted : Bool} {p : List Char} (hvoid : isVoid p = false) (l : List (List Char)) :
    named rooted (l ++ [p]) = named rooted l ++ [p] := by
  cases l with
  | nil => simp [named, hvoid]
  | cons q qs => simp [named, hvoid, List.filter_append]

/-- The void parts at the end name nothing. -/
theorem named_dropVoid (rooted : Bool) (l : List (List Char)) :
    named rooted (dropVoid rooted l).reverse = named rooted l.reverse := by
  induction l with
  | nil => rfl
  | cons p ps ih =>
    rw [dropVoid]
    split
    · rfl
    · next hdot =>
      split
      · next hvoid => rw [ih, List.reverse_cons, named_append_void hvoid (by simpa using hdot)]
      · rfl

theorem dropVoid_suffix (rooted : Bool) (l : List (List Char)) : dropVoid rooted l <:+ l := by
  induction l with
  | nil => exact List.suffix_refl _
  | cons p ps ih =>
    rw [dropVoid]
    split
    · exact List.suffix_refl _
    · split
      · exact ih.trans (List.suffix_cons p ps)
      · exact List.suffix_refl _

/-! ### Children -/

theorem isRooted_append {a : List Char} (ha : a ≠ []) (b : List Char) : isRooted (a ++ b) = isRooted a := by
  obtain ⟨c, cs, rfl⟩ := List.exists_cons_of_ne_nil ha
  rfl

theorem body_append {a : List Char} (ha : a ≠ []) (b : List Char) : body (a ++ b) = body a ++ b := by
  rw [body, body, isRooted_append ha]
  split
  · rw [List.drop_append_of_le_length (List.length_pos_iff.2 ha)]
  · rfl

/-- No relative path but the empty one starts with an empty part. -/
theorem head?_parts {l : List Char} (hrooted : isRooted l = false) (hne : l ≠ []) :
    (parts l).head? ≠ some [] := by
  obtain ⟨c, cs, rfl⟩ := List.exists_cons_of_ne_nil hne
  have hc : c ≠ '/' := by simpa [isRooted] using hrooted
  obtain ⟨p, ps, heq⟩ := List.exists_cons_of_ne_nil (parts_ne_nil cs)
  simp [parts_cons hc, heq]

/-- A slash at the end names nothing. -/
theorem named_parts_slash (rooted : Bool) {b : List Char} (hb : b ≠ []) :
    named rooted (parts (body (b ++ ['/']))) = named rooted (parts (body b)) := by
  rw [body_append hb, parts_append]
  exact named_append_void rfl (by simp)

/-- A name stands behind an empty base, behind the root, or behind the base and one slash. -/
theorem join_cases (base : String) {name : String} (hrelative : name.toList.head? ≠ some '/') :
    (base = "" ∧ join base name = name) ∨ (base = "/" ∧ (join base name).toList = '/' :: name.toList) ∨
      ∃ b, b ≠ [] ∧ (base.toList = b ∨ base.toList = b ++ ['/']) ∧
        (join base name).toList = b ++ '/' :: name.toList := by
  by_cases hempty : base = ""
  · exact .inl ⟨hempty, by simp [join, hempty]⟩
  · right
    by_cases hlast : base.toList.getLast? = some '/'
    · have hjoin : (join base name).toList = base.toList ++ name.toList := by
        simp [join, hrelative, hempty, hlast]
      obtain ⟨b, hb⟩ := List.getLast?_eq_some_iff.1 hlast
      by_cases hroot : b = []
      · subst hroot
        exact .inl ⟨String.toList_inj.1 hb, by rw [hjoin, hb]; rfl⟩
      · exact .inr ⟨b, hroot, .inr hb, by rw [hjoin, hb, List.append_assoc]; rfl⟩
    · exact .inr ⟨base.toList, by simpa using hempty, .inl rfl, by
        simp [join, hrelative, hempty, hlast]⟩

/-- The parts of a path below a base name what those of the base name, with one more behind them. -/
theorem exists_parts_join (base : String) {name : String} (hslash : '/' ∉ name.toList) :
    ∃ l, isRooted (join base name).toList = isRooted base.toList ∧
      parts (body (join base name).toList) = l ++ [name.toList] ∧
      named (isRooted base.toList) l = named (isRooted base.toList) (parts (body base.toList)) ∧
      (isRooted base.toList = false → l.head? ≠ some []) := by
  have hrelative : name.toList.head? ≠ some '/' := fun h => hslash (List.mem_of_head? h)
  have hname : parts name.toList = [name.toList] := parts_of_not_mem hslash
  rcases join_cases base hrelative with ⟨rfl, hjoin⟩ | ⟨rfl, hjoin⟩ | ⟨b, hne, hbase, hjoin⟩
  · have hrooted : isRooted name.toList = false := by simpa [isRooted] using hrelative
    exact ⟨[], by rw [hjoin, hrooted]; rfl, by rw [hjoin, body, hrooted]; exact hname, rfl, by simp⟩
  · exact ⟨[], by rw [hjoin]; rfl, by rw [hjoin]; exact hname, rfl, by simp⟩
  · have hrooted : isRooted base.toList = isRooted b := by
      rcases hbase with hbase | hbase
      · rw [hbase]
      · rw [hbase, isRooted_append hne]
    refine ⟨parts (body b), ?_, ?_, ?_, ?_⟩
    · rw [hjoin, isRooted_append hne, hrooted]
    · rw [hjoin, body_append hne, parts_append, hname]
    · rcases hbase with hbase | hbase
      · rw [hbase]
      · rw [hbase, named_parts_slash _ hne]
    · rw [hrooted]
      intro hfalse
      rw [body, hfalse]
      exact head?_parts hfalse hne

section

variable (base : String) {name : String}

theorem components_join (hslash : '/' ∉ name.toList) (hvoid : isVoid name.toList = false) :
    components (join base name) = components base ++ [name] := by
  obtain ⟨l, hrooted, hparts, hnamed, -⟩ := exists_parts_join base hslash
  rw [components, components, hrooted, hparts, named_append hvoid, hnamed, List.map_append, List.append_assoc,
    List.map_singleton, String.ofList_toList]

/-- The path that is put together from parts. -/
def pathOf (rooted : Bool) (l : List (List Char)) : String :=
  (if rooted then "/" else "") ++ "/".intercalate (l.map String.ofList)

/-- Such a path has what the parts name for its components, unless an empty part starts a relative one. -/
theorem components_pathOf {rooted : Bool} {l : List (List Char)} (hparts : ∀ p ∈ l, '/' ∉ p)
    (hhead : rooted = false → l.head? ≠ some []) :
    components (pathOf rooted l) = (if rooted then ["/"] else []) ++ (named rooted l).map String.ofList := by
  have hnamed : named rooted (parts (['/'].intercalate l)) = named rooted l := by
    by_cases hne : l = []
    · subst hne
      rfl
    · rw [parts_intercalate hparts hne]
  have htext : ("/".intercalate (l.map String.ofList)).toList = ['/'].intercalate l := by
    rw [String.toList_intercalate, List.map_map]
    simp [Function.comp_def]
  cases rooted with
  | true => simp [components, pathOf, isRooted, body, htext, hnamed]
  | false =>
    have hrooted : isRooted (['/'].intercalate l) = false := by
      match l with
      | [] => rfl
      | [] :: ps => exact absurd rfl (hhead rfl)
      | (c :: cs) :: ps =>
        have hc : c ≠ '/' := fun hc => hparts (c :: cs) List.mem_cons_self (hc ▸ List.mem_cons_self)
        cases ps <;> simpa [isRooted, List.intercalate] using hc
    simp [components, pathOf, body, htext, hrooted, hnamed]

theorem parent?_of_parts {path : String} {l : List (List Char)} {p : List Char}
    (hparts : parts (body path.toList) = l ++ [p]) (hvoid : isVoid p = false) :
    parent? path =
      some (pathOf (isRooted path.toList) (dropVoid (isRooted path.toList) l.reverse).reverse) := by
  have hlast : dropVoid (isRooted path.toList) (p :: l.reverse) = p :: l.reverse := by
    rw [dropVoid]
    simp [hvoid]
  have hbody : (if path.toList.head? = some '/' then path.toList.drop 1 else path.toList) =
      body path.toList := by
    simp [body, isRooted]
  have hreverse : (parts (body path.toList)).reverse = p :: l.reverse := by
    rw [hparts, List.reverse_append, List.reverse_singleton, List.singleton_append]
  have hrooted : decide (path.toList.head? = some '/') = isRooted path.toList := rfl
  simp only [parent?, hbody, hreverse]
  rw [hrooted, hlast]
  simp [pathOf, isRooted]

theorem exists_parent?_join (hslash : '/' ∉ name.toList) (hvoid : isVoid name.toList = false) :
    ∃ folder, parent? (join base name) = some folder ∧ components folder = components base := by
  obtain ⟨l, hrooted, hparts, hnamed, hhead⟩ := exists_parts_join base hslash
  refine ⟨_, parent?_of_parts hparts hvoid, ?_⟩
  rw [hrooted]
  have hkept : (dropVoid (isRooted base.toList) l.reverse).reverse <+: l := by
    rw [← List.reverse_suffix, List.reverse_reverse]
    exact dropVoid_suffix (isRooted base.toList) l.reverse
  rw [components_pathOf, named_dropVoid, List.reverse_reverse, hnamed, components]
  · intro q hq
    exact not_mem_of_mem_parts (l := body (join base name).toList)
      (by rw [hparts]; exact List.mem_append_left _ (hkept.subset hq))
  · intro hrelative hempty
    obtain ⟨qs, hqs⟩ := List.head?_eq_some_iff.1 hempty
    obtain ⟨rest, hrest⟩ := hkept
    exact hhead hrelative (by rw [← hrest, hqs]; rfl)

end

/-- The path leads to a file or folder in the base: it has one component more, which is no step back, and
what is left without it leads to the base. -/
structure IsChild (path base name : String) : Prop where
  components_eq : components path = components base ++ [name]
  forward : name ≠ ".."
  parent : ∃ folder, parent? path = some folder ∧ components folder = components base

theorem isChild_join (base : String) {name : String} (hslash : '/' ∉ name.toList)
    (hvoid : isVoid name.toList = false) (hforward : name ≠ "..") : IsChild (join base name) base name where
  components_eq := components_join base hslash hvoid
  forward := hforward
  parent := exists_parent?_join base hslash hvoid

end SchemaGo.File
