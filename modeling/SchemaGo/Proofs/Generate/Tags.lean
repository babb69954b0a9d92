import Mathlib.Data.List.TakeWhile
import SchemaGo.Proofs.Render.StructText
import SchemaGo.Proofs.Text.Literal

/-! Tags of fields and the keys that are read back from them. The tag of a declared field is a raw string
that quotes the key, and a reader of the tag gets the value of that quotation up to its first comma. The
key is not escaped, so it comes back exactly if it holds no character that ends a line, the raw string,
the quotation or the name, and none that starts an escape. -/

namespace SchemaGo

namespace Render

open Code (Indent)
open Model (Index ModelNode)
open Text (Literal OneLine bytes commaByte count_lineList count_withoutReturn eq_of_sublist_of_bytes
  filter_withoutReturn interpreted interpreted_literal length_upToComma_le lineList
  lineList_append_newline lineList_newline lineList_oneLine_append rawString? rawString?_eq upToComma
  upToComma_bytes withoutReturn withoutReturn_append withoutReturn_closed)

/-! ### Reading tags -/

/-- The name that a tag gives, which is quoted behind its first word and ends at a comma. -/
def tagName? (tag : List Char) : Option (List UInt8) :=
  (tag.dropPrefix? "json:\"".toList).bind fun l => (interpreted 0 l).map (upToComma ·.1)

/-- The name in the tag with a number in a text, counted from zero. -/
def readName? (text : String) (i : Nat) : Option (List UInt8) :=
  (rawString? i text.toList).bind tagName?

/-- The key can be read back from its tag. -/
def Taggable (key : String) : Prop :=
  ∀ c ∈ key.toList, c ∉ "\"\\`,\n\r".toList

instance (key : String) : Decidable (Taggable key) :=
  List.decidableBAll _ key.toList

theorem tagName?_quoted (l : List Char) :
    tagName? ("json:\"".toList ++ l) = (interpreted 0 l).map (upToComma ·.1) := by
  have hprefix : ("json:\"".toList ++ l).dropPrefix? "json:\"".toList = some l :=
    List.dropPrefix?_eq_some_iff.2 ⟨_, rfl, by simp⟩
  rw [tagName?, hprefix, Option.bind_some]

/-- The characters of a key are read as they are. -/
theorem tagName?_of_taggable {key : String} (h : Taggable key) :
    tagName? ("json:\"".toList ++ (key.toList ++ ",omitempty\"".toList)) = some (bytes key.toList) := by
  have hliteral : ∀ c ∈ key.toList, Literal c := by
    intro c hc
    have hkey := h c hc
    refine ⟨?_, ?_, ?_⟩ <;> rintro rfl <;> exact hkey (by decide)
  have hcomma : ',' ∉ key.toList := fun hc => h _ hc (by decide)
  have hend : interpreted 0 ",omitempty\"".toList = some (commaByte :: bytes "omitempty".toList, []) := by
    decide
  rw [tagName?_quoted, interpreted_literal hliteral, hend, Option.map_some, Option.map_some,
    upToComma_bytes hcomma]

/-! ### Characters of a key in its tag -/

/-- What stands behind the opening quote of a tag: the line of the key, and `rest` in the next lines. -/
def quotedLines (key : String) (rest : List Char) : List Char :=
  withoutReturn ((lineList (key.toList ++ ",omitempty\"`".toList ++ ['\n'])).headD []) ++ '\n' :: rest

/-- The value of the tag from its opening quote on. -/
def tagRest (key : String) (rest : List Char) : List Char :=
  ((quotedLines key rest).filter (· ≠ '\r')).takeWhile (· ≠ '\x60')

theorem tag_quotedLines (key : String) (rest : List Char) :
    (("json:\"".toList ++ quotedLines key rest).filter (· ≠ '\r')).takeWhile (· ≠ '\x60') =
      "json:\"".toList ++ tagRest key rest := by
  rw [List.filter_append, List.filter_eq_self.2 (by simp), List.takeWhile_append_of_pos (by simp)]
  rfl

theorem quotedLines_append (key : String) (rest l : List Char) :
    quotedLines key rest ++ l = quotedLines key (rest ++ l) := by
  simp [quotedLines]

theorem headD_of_newline_not_mem {key : String} (h : '\n' ∉ key.toList) :
    withoutReturn ((lineList (key.toList ++ ",omitempty\"`".toList ++ ['\n'])).headD []) =
      key.toList ++ ",omitempty\"`".toList := by
  have hclosed : Text.Closed (key.toList ++ ",omitempty\"`".toList) :=
    (OneLine.closed (l := ",omitempty\"`".toList) (by decide) (by decide)).append _
  rw [lineList_newline (by simpa using h), List.headD_cons, withoutReturn_closed hclosed,
    withoutReturn_closed hclosed]

theorem tagRest_of_taggable {key : String} (h : Taggable key) (rest : List Char) :
    tagRest key rest = key.toList ++ ",omitempty\"".toList := by
  have hplain : ∀ c ∈ key.toList ++ ",omitempty\"".toList, c ≠ '\r' ∧ c ≠ '\x60' := by
    refine List.forall_mem_append.2 ⟨fun c hc => ?_, by simp⟩
    constructor <;> rintro rfl <;> exact h _ hc (by decide)
  have hsplit : key.toList ++ ",omitempty\"`".toList ++ '\n' :: rest =
      (key.toList ++ ",omitempty\"".toList) ++ '\x60' :: '\n' :: rest := by simp
  rw [tagRest, quotedLines, headD_of_newline_not_mem fun hc => h _ hc (by decide), hsplit,
    List.filter_append, List.filter_eq_self.2 fun c hc => by simpa using (hplain c hc).1,
    List.takeWhile_append_of_pos fun c hc => by simpa using (hplain c hc).2]
  simp

/-- The first line of a tag starts with some of the key's characters, and a comma or a newline follows. -/
theorem exists_firstLine (key : String) (rest : List Char) :
    ∃ u tail, (quotedLines key rest).filter (· ≠ '\r') = u ++ tail ∧ u.Sublist key.toList ∧
      (∀ c ∈ u, c ≠ '\r' ∧ c ≠ '\n') ∧ ∀ c ∈ tail.head?, c = ',' ∨ c = '\n' := by
  unfold quotedLines
  by_cases hnewline : '\n' ∈ key.toList
  · obtain ⟨a, b, hkey, ha⟩ := List.eq_append_cons_of_mem hnewline
    refine ⟨a.filter (· ≠ '\r'), '\n' :: rest.filter (· ≠ '\r'), ?_, ?_, fun c hc => ?_, by simp⟩
    · rw [hkey, List.append_assoc, List.append_assoc, List.cons_append, lineList_append_newline,
        lineList_newline ha, List.singleton_append, List.headD_cons, List.filter_append,
        filter_withoutReturn, filter_withoutReturn]
      rfl
    · rw [hkey]
      exact List.filter_sublist.trans (List.sublist_append_left _ _)
    · obtain ⟨hmem, hreturn⟩ := List.mem_filter.1 hc
      exact ⟨by simpa using hreturn, ne_of_mem_of_not_mem hmem ha⟩
  · refine ⟨key.toList.filter (· ≠ '\r'), ",omitempty\"`\n".toList ++ rest.filter (· ≠ '\r'), ?_,
      List.filter_sublist, fun c hc => ?_, by simp⟩
    · rw [headD_of_newline_not_mem hnewline]
      simp
    · obtain ⟨hmem, hreturn⟩ := List.mem_filter.1 hc
      exact ⟨by simpa using hreturn, ne_of_mem_of_not_mem hmem hnewline⟩

/-- A tag starts with some of the key's characters, and either it ends there or a comma or a newline
follows. -/
theorem exists_front (key : String) (rest : List Char) :
    ∃ u tail, tagRest key rest = u ++ tail ∧ u.Sublist key.toList ∧
      (∀ c ∈ u, c ≠ '\r' ∧ c ≠ '\n' ∧ c ≠ '\x60') ∧ ∀ c ∈ tail.head?, c = ',' ∨ c = '\n' := by
  obtain ⟨u, tail, hline, hu, hplain, htail⟩ := exists_firstLine key rest
  rw [tagRest, hline, List.takeWhile_append]
  split
  · next hall =>
    have hself : u.takeWhile (· ≠ '\x60') = u := (List.takeWhile_sublist _).eq_of_length hall
    refine ⟨u, tail.takeWhile (· ≠ '\x60'), rfl, hu, fun c hc => ?_, fun c hc => ?_⟩
    · have hbackquote := List.takeWhile_eq_self_iff.1 hself c hc
      exact ⟨(hplain c hc).1, (hplain c hc).2, by simpa using hbackquote⟩
    · refine htail c ?_
      cases tail with
      | nil => cases hc
      | cons d tail => rcases htail d rfl with rfl | rfl <;> exact hc
  · refine ⟨u.takeWhile (· ≠ '\x60'), [], by simp, (List.takeWhile_sublist _).trans hu, fun c hc => ?_,
      by simp⟩
    have hmem := (List.takeWhile_sublist _).subset hc
    exact ⟨(hplain c hmem).1, (hplain c hmem).2, by simpa using List.mem_takeWhile_imp hc⟩

/-- A key comes back from its tag exactly if it can be tagged. -/
theorem tagName?_tagRest_iff (key : String) (rest : List Char) :
    tagName? ("json:\"".toList ++ tagRest key rest) = some (bytes key.toList) ↔ Taggable key := by
  constructor
  · intro h
    obtain ⟨u, tail, htag, hu, hplain, htail⟩ := exists_front key rest
    rw [htag, tagName?_quoted] at h
    obtain ⟨⟨v, after⟩, hread, hname⟩ := Option.map_eq_some_iff.1 h
    obtain ⟨hle, hsame⟩ := length_upToComma_le htail hread
    rw [hname] at hle hsame
    obtain rfl := eq_of_sublist_of_bytes hu hle
    have hliteral := hsame rfl
    intro c hc
    obtain ⟨hcomma, hquote, hback, -⟩ := hliteral c hc
    obtain ⟨hreturn, hnewline, hbackquote⟩ := hplain c hc
    simp [hcomma, hquote, hback, hreturn, hnewline, hbackquote]
  · intro h
    rw [tagRest_of_taggable h, tagName?_of_taggable h]

/-! ### Backquotes of a struct -/

/-- The characters of a field in its struct. -/
def fieldChars (i : Indent) (c : FieldContext) : List Char :=
  (bodyLines i c).flatMap (· ++ ['\n'])

theorem backquote_not_mem_typed (c : FieldContext) : '\x60' ∉ typed c := by
  have hname := (unmarked_fieldName c.field.key).not_mem (c := '\x60') (by decide)
  have htype : '\x60' ∉ (fieldType c).toList := fun h =>
    TypeExpr.forall_mem_text_of (P := (· ≠ '\x60')) (by simp)
      (fun id d hd => ne_of_mem_of_not_mem hd ((unmarked_typeName id).not_mem (by decide))) _ _ _ h rfl
  have hstart : '\x60' ∉ (fieldStart c).toList := by
    unfold fieldStart
    split
    · simp [hname]
    · split <;> simp [hname]
  simp [typed, hstart, htype]

theorem backquote_not_mem_unit (i : Indent) : '\x60' ∉ i.unit.toList := by
  cases i with
  | spaces width => simp [Indent.unit]
  | tab => decide

theorem count_flatMap_of_count {f : List Char → List Char} {a : Char}
    (h : ∀ l, (f l).count a = l.count a) (L : List (List Char)) :
    (L.flatMap f).count a = L.flatten.count a := by
  induction L with
  | nil => rfl
  | cons l L ih => rw [List.flatMap_cons, List.flatten_cons, List.count_append, List.count_append, h, ih]

/-- Indenting a field and reading its lines again leaves its backquotes. -/
theorem count_fieldChars (i : Indent) (c : FieldContext) :
    (fieldChars i c).count '\x60' = (fieldLine c).toList.count '\x60' := by
  have happly : ∀ l : List Char,
      (withoutReturn (i.applyLine (String.ofList l)).toList ++ ['\n']).count '\x60' = l.count '\x60' := by
    intro l
    rw [List.count_append, count_withoutReturn (by decide), Indent.toList_applyLine]
    split
    · next hl => simp [hl]
    · rw [List.count_append, List.count_eq_zero.2 (backquote_not_mem_unit i)]
      simp
  rw [fieldChars, bodyLines, List.flatMap_map, count_flatMap_of_count happly,
    count_lineList (by decide) (by decide), List.count_append]
  rfl

/-- The context of a declared field. -/
def declared (n : ModelNode) (r : Renderer) (p : String × ModelNode) : FieldContext :=
  ⟨n, r, p.1, p.2, .property⟩

theorem fieldEnd_declared (n : ModelNode) (r : Renderer) (p : String × ModelNode) :
    (fieldEnd (declared n r p)).toList = " `json:\"".toList ++ (p.1.toList ++ ",omitempty\"`".toList) := by
  simp [fieldEnd, declared, FieldOrigin.isSynthetic]

/-- A declared field has the two backquotes of its tag and those of its key. -/
theorem count_fieldChars_declared (i : Indent) (n : ModelNode) (r : Renderer) (p : String × ModelNode) :
    (fieldChars i (declared n r p)).count '\x60' = p.1.toList.count '\x60' + 2 := by
  rw [count_fieldChars, toList_fieldLine, List.count_append,
    List.count_eq_zero.2 (backquote_not_mem_typed _), fieldEnd_declared, List.count_append,
    List.count_append]
  have hopen : " `json:\"".toList.count '\x60' = 1 := by decide
  have hclose : ",omitempty\"`".toList.count '\x60' = 1 := by decide
  omega

theorem count_fieldStart (i : Indent) (c : FieldContext) :
    (i.unit.toList ++ typed c ++ [' ']).count '\x60' = 0 := by
  rw [List.count_eq_zero]
  simp [backquote_not_mem_unit, backquote_not_mem_typed]

/-- The opening backquote of a declared field, and the tag with the closing one behind it. -/
theorem fieldChars_declared (i : Indent) (n : ModelNode) (r : Renderer) (p : String × ModelNode) :
    ∃ rest, fieldChars i (declared n r p) = (i.unit.toList ++ typed (declared n r p) ++ [' ']) ++
        '\x60' :: ("json:\"".toList ++ quotedLines p.1 rest) ∧
      '\x60' ∈ quotedLines p.1 rest := by
  have hcount := count_fieldChars_declared i n r p
  have hchars : ∃ rest, fieldChars i (declared n r p) =
      (i.unit.toList ++ typed (declared n r p) ++ [' ']) ++
        '\x60' :: ("json:\"".toList ++ quotedLines p.1 rest) := by
    have honeLine : OneLine " `json:\"".toList := by decide
    rw [fieldChars, bodyLines_eq, fieldEnd_declared, List.append_assoc " `json:\"".toList,
      lineList_oneLine_append honeLine (by decide), List.headD_cons,
      withoutReturn_append fun h => (honeLine _ h).2 rfl, List.flatMap_cons]
    generalize List.flatMap _ (List.map _ _) = rest
    exact ⟨rest, by simp [quotedLines]⟩
  obtain ⟨rest, hchars⟩ := hchars
  have hopen : "json:\"".toList.count '\x60' = 0 := by decide
  rw [hchars, List.count_append, count_fieldStart, List.count_cons_self, List.count_append,
    hopen] at hcount
  exact ⟨rest, hchars, List.count_pos_iff.1 (by omega)⟩

/-! ### Tags of a struct -/

theorem count_structHead {c : StructContext} {id : String} (htype : c.typeName = typeName id) :
    (structHead c).out.toList.count '\x60' = 0 := by
  have hname := (unmarked_typeName id).not_mem (c := '\x60') (by decide)
  rw [out_structHead (htype ▸ oneLine_typeName id), htype, List.count_eq_zero]
  simp [hname]

/-- The characters of a struct: its opening lines, those of its fields, and the brace. -/
theorem toList_of_plainStruct {r : Renderer} {n : ModelNode} {text : String}
    (h : plainStruct r n = .ok text) :
    ∃ head : List Char, head.count '\x60' = 0 ∧
      text.toList = head ++ ((structFields n).map fun f => ⟨n, r, f⟩).flatMap
        (fieldChars r.options.indent) ++ ['\x7d'] := by
  rw [plainStruct_eq] at h
  cases hname : structName n ((structFields n).map (·.key)) with
  | error e =>
    rw [hname] at h
    cases h
  | ok type =>
    have hshape : structShape n = .ok (type, structFields n) := by
      rw [structShape_eq, hname]
      rfl
    obtain ⟨id, -, htype, -⟩ := modelTypeName_eq_ok_iff.1 (structShape_eq_ok_iff.1 hshape).1
    rw [hname] at h
    obtain rfl := Except.ok.inj h
    refine ⟨(structHead ⟨n, r, type⟩).out.toList, count_structHead htype.symm, ?_⟩
    rw [toList_structDeclaration, lineList_structBody, List.flatMap_assoc]
    rfl

theorem count_flatMap_declared {i : Indent} {n : ModelNode} {r : Renderer}
    {l : List (String × ModelNode)} (h : ∀ p ∈ l, '\x60' ∉ p.1.toList) :
    ((l.map (declared n r)).flatMap (fieldChars i)).count '\x60' = 2 * l.length := by
  induction l with
  | nil => rfl
  | cons p l ih =>
    obtain ⟨hp, hl⟩ := List.forall_mem_cons.1 h
    rw [List.map_cons, List.flatMap_cons, List.count_append, count_fieldChars_declared,
      List.count_eq_zero.2 hp, ih hl, List.length_cons]
    omega

/-- If no key in front of it has a backquote, a key comes back from the text exactly if it can be
tagged. -/
theorem readName?_split_iff {r : Renderer} {n : ModelNode} {text : String} (h : plainStruct r n = .ok text)
    {front back : List (String × ModelNode)} {p : String × ModelNode}
    (hproperties : n.properties = front ++ p :: back) (hfront : ∀ q ∈ front, '\x60' ∉ q.1.toList) :
    readName? text front.length = some (bytes p.1.toList) ↔ Taggable p.1 := by
  obtain ⟨head, hhead, htext⟩ := toList_of_plainStruct h
  obtain ⟨after, hfields⟩ : ∃ after, (structFields n).map (fun f => (⟨n, r, f⟩ : FieldContext)) =
      front.map (declared n r) ++ declared n r p :: after := by
    simp only [structFields, hproperties, List.map_append, List.map_cons, List.append_assoc,
      List.cons_append, List.map_map]
    exact ⟨_, rfl⟩
  obtain ⟨rest, hchars, hclosing⟩ := fieldChars_declared r.options.indent n r p
  have hlead : (head ++ (front.map (declared n r)).flatMap (fieldChars r.options.indent) ++
      (r.options.indent.unit.toList ++ typed (declared n r p) ++ [' '])).count '\x60' =
        2 * front.length := by
    rw [List.count_append, List.count_append, hhead, count_flatMap_declared hfront, count_fieldStart,
      Nat.zero_add, Nat.add_zero]
  generalize hrest : rest ++ (after.flatMap (fieldChars r.options.indent) ++ ['\x7d']) = rest'
  have htag : '\x60' ∈ "json:\"".toList ++ quotedLines p.1 rest' := by
    rw [← hrest, ← quotedLines_append]
    exact List.mem_append_right _ (List.mem_append_left _ hclosing)
  have hsplit : text.toList = head ++ (front.map (declared n r)).flatMap (fieldChars r.options.indent) ++
      (r.options.indent.unit.toList ++ typed (declared n r p) ++ [' ']) ++
        '\x60' :: ("json:\"".toList ++ quotedLines p.1 rest') := by
    rw [htext, hfields, List.flatMap_append, List.flatMap_cons, hchars, ← hrest, ← quotedLines_append]
    simp only [List.append_assoc, List.cons_append]
  rw [readName?, hsplit, rawString?_eq hlead htag, Option.bind_some, tag_quotedLines]
  exact tagName?_tagRest_iff p.1 rest'

/-- The keys of the declared fields. -/
def fieldKeys (n : ModelNode) : List String :=
  n.properties.map (·.1)

theorem fieldKeys_alike {n m : ModelNode} (h : Model.ModelNode.Alike n m) : fieldKeys m = fieldKeys n := by
  have hunnamed : ∀ n : ModelNode, fieldKeys n.unnamed = fieldKeys n := by
    intro n
    rw [Model.ModelNode.unnamed_eq]
    simp [fieldKeys, Function.comp_def]
  rw [← hunnamed m, h.unnamed_eq, hunnamed]

theorem readName?_iff {r : Renderer} {n : ModelNode} {text : String} (h : plainStruct r n = .ok text)
    {i : Nat} {key : String} (hkey : (fieldKeys n)[i]? = some key)
    (hfront : ∀ k ∈ (fieldKeys n).take i, '\x60' ∉ k.toList) :
    readName? text i = some (bytes key.toList) ↔ Taggable key := by
  rw [fieldKeys, List.getElem?_map, Option.map_eq_some_iff] at hkey
  obtain ⟨p, hp, rfl⟩ := hkey
  obtain ⟨hi, rfl⟩ := List.getElem?_eq_some_iff.1 hp
  have hsplit : n.properties = n.properties.take i ++ n.properties[i] :: n.properties.drop (i + 1) := by
    rw [← List.drop_eq_getElem_cons, List.take_append_drop]
  have hlength : (n.properties.take i).length = i := List.length_take_of_le hi.le
  have hiff := readName?_split_iff h hsplit fun q hq => hfront q.1 <| by
    rw [fieldKeys, ← List.map_take]
    exact List.mem_map_of_mem hq
  rwa [hlength] at hiff

end Render

namespace Generate

open Model (Index ModelNode)
open Render (Taggable fieldKeys fieldKeys_alike readName? readName?_iff)
open Text (bytes)

/-- Every key of a declared field comes back from its tag. -/
def TagsRead (m : ModelNode) (o : Output) : Prop :=
  ∀ i key, (fieldKeys m)[i]? = some key → readName? o.text i = some (bytes key.toList)

/-- The keys of a rendered struct come back from their tags exactly if they can be tagged: all of them, and
each one that no key with a backquote stands in front of. -/
theorem tagsRead_iff {g : Generator} (plain : g.presets = []) {x : Index} {m : ModelNode} {o : Output}
    (h : g.renderStruct m x = .ok o) :
    (∀ i key, (fieldKeys m)[i]? = some key →
        (∀ k ∈ (fieldKeys m).take i, '\x60' ∉ k.toList) →
        (readName? o.text i = some (bytes key.toList) ↔ Taggable key)) ∧
      (TagsRead m o ↔ ∀ key ∈ fieldKeys m, Taggable key) := by
  have htext := Generator.plainStruct_of_ok plain h
  have hkeys := fieldKeys_alike (ModelNode.alike_nested x m)
  have heach : ∀ i key, (fieldKeys m)[i]? = some key →
      (∀ k ∈ (fieldKeys m).take i, '\x60' ∉ k.toList) →
      (readName? o.text i = some (bytes key.toList) ↔ Taggable key) := by
    intro i key hkey hfront
    rw [← hkeys] at hkey hfront
    exact readName?_iff htext hkey hfront
  have hbackquote : ∀ key, Taggable key → '\x60' ∉ key.toList := fun key hkey hmem =>
    hkey _ hmem (by decide)
  refine ⟨heach, fun hread => ?_, fun hall i key hkey => ?_⟩
  · -- by induction on the place of the key, the keys in front of it can be tagged
    have hplace : ∀ (i : Nat) key, (fieldKeys m)[i]? = some key → Taggable key := by
      intro i
      induction i using Nat.strongRecOn with
      | ind i ih =>
        intro key hkey
        refine (heach i key hkey fun k hk => ?_).1 (hread i key hkey)
        obtain ⟨j, hj, rfl⟩ := List.mem_take_iff_getElem.1 hk
        exact hbackquote _ (ih j (by omega) _ (List.getElem?_eq_getElem _))
    intro key hkey
    obtain ⟨i, hi⟩ := List.mem_iff_getElem?.1 hkey
    exact hplace i key hi
  · refine (heach i key hkey fun k hk => hbackquote k (hall k (List.mem_of_mem_take hk))).2 ?_
    exact hall key (List.mem_of_getElem? hkey)

/-- A struct with a backquote in its second key. -/
def backquoted : ModelNode where
  id := some "t"
  type := some (.single .object)
  properties := [("a", { type := some (.single .string) }), ("b`c", { type := some (.single .string) })]

theorem tagsRead_iff_backquoted :
    ∃ o, Generator.renderStruct {} backquoted .empty = .ok o ∧
      readName? o.text 0 = some (bytes "a".toList) ∧ ¬ TagsRead backquoted o := by
  obtain ⟨o, hrender⟩ :=
    exists_of_isOk (e := Generator.renderStruct {} backquoted .empty) (by decide +kernel)
  obtain ⟨heach, hall⟩ := tagsRead_iff rfl hrender
  exact ⟨o, hrender, (heach 0 "a" rfl (by simp)).2 (by decide),
    fun hread => absurd (hall.1 hread) (by decide)⟩

/-- A struct with a quote in the middle of a key. -/
def quoted : ModelNode where
  id := some "t"
  type := some (.single .object)
  properties := [("a\"b", { type := some (.single .string) })]

/-- The tag of `a"b` ends at the quote in it, so `a` is read. -/
theorem tag_loses_key :
    ∃ o, Generator.renderStruct {} quoted .empty = .ok o ∧ fieldKeys quoted = ["a\"b"] ∧
      readName? o.text 0 = some (bytes "a".toList) ∧ ¬ TagsRead quoted o := by
  let o : Output :=
    ⟨"// T represents a T model.\ntype T struct \x7b\n\tAB *string `json:\"a\"b,omitempty\"`\n\x7d", []⟩
  have hread : readName? o.text 0 = some (bytes "a".toList) := by decide +kernel
  refine ⟨o, by decide +kernel, rfl, hread, fun hkeys => ?_⟩
  have hkey := hkeys 0 "a\"b" rfl
  rw [hread] at hkey
  exact absurd hkey (by decide)

end Generate

end SchemaGo
