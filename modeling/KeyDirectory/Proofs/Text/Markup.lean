import KeyDirectory.Proofs.Text.Entity
import KeyDirectory.Text.Markup

/-!
# Markup is read as it was written

What stands in a text or in a value is escaped, so it holds neither the character that begins a tag
nor the one that ends a value.  Reading a part is followed place by place through the tag and its
attributes; the parts before it only wait.

* `foldlM_writeAttributes`: the attributes of a tag.
* `foldlM_write`: one part.
* `read?_of_write`: all parts.
-/

namespace KeyDirectory.Text.Markup

variable {place : Place} {parts : List Part} {tag : Tag} {name read s : List Char}

/-- A name that a tag can have. -/
def isTagName : List Char → Bool
  | [] => false
  | first :: rest => (isNameChar first || first = '/' || first = '!') && rest.all isNameChar

/-- A name that an attribute can have. -/
def isAttributeName (name : List Char) : Bool :=
  !name.isEmpty && name.all isNameChar

/-- Whether a tag and its attributes have names that they can have. -/
def Tag.isProper (tag : Tag) : Bool :=
  isTagName tag.name.toList && tag.attributes.all fun a => isAttributeName a.1.toList

/-- An outline is proper iff its tag is. -/
lemma isProper_outline (p : Part) : p.outline.isProper = p.tag.isProper := by
  simp [Part.outline, Tag.isProper, List.all_map, Function.comp_def]

/-! ## Runs -/

section run

variable {α β : Type} {f : α → β → Option α} {a b : α}

/-- A run over one text and then another goes on where the first run ends. -/
lemma foldlM_append_of_eq {s : List β} (h : s.foldlM f a = some b) (t : List β) :
    (s ++ t).foldlM f a = t.foldlM f b := by
  rw [List.foldlM_append, h]
  rfl

/-- A run over a character and then a text goes on where the character leads. -/
lemma foldlM_cons_of_eq {c : β} (h : f a c = some b) (t : List β) :
    (c :: t).foldlM f a = t.foldlM f b := by
  rw [List.foldlM_cons, h]
  rfl

end run

/-! ## Characters -/

/-- A name has no less-than sign. -/
lemma less_not_mem_name (h : name.all isNameChar = true) : '<' ∉ name := fun hmem =>
  absurd (List.all_eq_true.mp h _ hmem) (by decide)

/-- Escaped text has neither a less-than sign nor a quotation mark. -/
lemma not_mem_escaped (text : String) :
    '<' ∉ Entity.escapeChars text.toList ∧ '"' ∉ Entity.escapeChars text.toList :=
  ⟨Entity.not_mem_escapeChars (by decide) _, Entity.not_mem_escapeChars (by decide) _⟩

/-- A written attribute has no less-than sign. -/
lemma less_not_mem_writeAttribute {a : String × Option String}
    (h : isAttributeName a.1.toList = true) : '<' ∉ writeAttribute a := by
  have hname := less_not_mem_name (Bool.and_eq_true_iff.mp h).2
  rcases a with ⟨name, _ | value⟩
  · simpa [writeAttribute] using hname
  · simpa [writeAttribute] using ⟨hname, (not_mem_escaped value).1⟩

/-- A part holds one character that begins a tag, its first one. -/
lemma Part.write_eq {p : Part} (h : p.tag.isProper = true) : ∃ s, p.write = '<' :: s ∧ '<' ∉ s := by
  obtain ⟨htag, hattributes⟩ := Bool.and_eq_true_iff.mp h
  have hname : '<' ∉ p.tag.name.toList := by
    cases hread : p.tag.name.toList with
    | nil => exact List.not_mem_nil
    | cons first rest =>
        rw [hread] at htag
        obtain ⟨hfirst, hrest⟩ := Bool.and_eq_true_iff.mp htag
        rw [List.mem_cons, not_or]
        refine ⟨?_, less_not_mem_name hrest⟩
        rintro rfl
        cases hfirst
  have hwritten : '<' ∉ p.tag.attributes.flatMap writeAttribute := by
    intro hmem
    obtain ⟨a, ha, hmem⟩ := List.mem_flatMap.mp hmem
    exact less_not_mem_writeAttribute (List.all_eq_true.mp hattributes a ha) hmem
  refine ⟨_, rfl, ?_⟩
  simp only [List.mem_append, List.mem_cons, not_or]
  exact ⟨⟨hname, hwritten⟩, by decide, (not_mem_escaped p.text).1⟩

/-- An escaped value is read back as it was. -/
@[simp] lemma unescaped_escapeChars (value : String) :
    unescaped (Entity.escapeChars value.toList) = value := by
  rw [unescaped, Entity.unescapeChars_escapeChars, String.ofList_toList]

/-! ## Places -/

/-- The tag that was read where it may end. -/
def Place.tag? : Place → Option Tag
  | tagName read => some ⟨String.ofList read, []⟩
  | attributeName tag read => some (tag.add read none)
  | afterValue tag => some tag
  | _ => none

/-- A tag that may end does so at a space or where it is closed. -/
lemma next?_of_tag? (h : place.tag? = some tag) :
    place.next? ' ' = some (.space tag) ∧ place.next? '>' = some (.text tag []) := by
  cases place with
  | tagName read =>
      obtain rfl := Option.some.inj h
      cases read <;> exact ⟨rfl, rfl⟩
  | attributeName tag read =>
      obtain rfl := Option.some.inj h
      exact ⟨rfl, rfl⟩
  | afterValue tag =>
      obtain rfl := Option.some.inj h
      exact ⟨rfl, rfl⟩
  | _ => cases h

/-- Characters that each add to what was read. -/
lemma foldlM_next? {placeOf : List Char → Place}
    (h : ∀ c ∈ s, ∀ read, (placeOf read).next? c = some (placeOf (read ++ [c])))
    (read : List Char) :
    s.foldlM Place.next? (placeOf read) = some (placeOf (read ++ s)) := by
  induction s generalizing read with
  | nil => simp
  | cons c s ih =>
      rw [List.forall_mem_cons] at h
      rw [foldlM_cons_of_eq (h.1 read), ih h.2, List.append_assoc, List.singleton_append]

/-- The name of a tag is read to its end. -/
lemma foldlM_tagName (h : isTagName name = true) :
    name.foldlM Place.next? (.tagName []) = some (.tagName name) := by
  cases name with
  | nil => cases h
  | cons first rest =>
      obtain ⟨hfirst, hrest⟩ := Bool.and_eq_true_iff.mp h
      have hbegin : (Place.tagName []).next? first = some (.tagName [first]) :=
        if_pos (by simpa [or_assoc] using hfirst)
      have hmore : ∀ c ∈ rest, ∀ read,
          (Place.tagName read).next? c = some (.tagName (read ++ [c])) := by
        intro c hc read
        simp [Place.next?, List.all_eq_true.mp hrest c hc]
      rw [foldlM_cons_of_eq hbegin, foldlM_next? hmore, List.singleton_append]

/-- The name of an attribute is read to its end. -/
lemma foldlM_attributeName (h : isAttributeName name = true) (tag : Tag) :
    name.foldlM Place.next? (.space tag) = some (.attributeName tag name) := by
  cases name with
  | nil => cases h
  | cons first rest =>
      rw [isAttributeName, List.isEmpty_cons, Bool.not_false, Bool.true_and, List.all_cons,
        Bool.and_eq_true] at h
      have hbegin : (Place.space tag).next? first = some (.attributeName tag [first]) :=
        if_pos h.1
      have hmore : ∀ c ∈ rest, ∀ read,
          (Place.attributeName tag read).next? c = some (.attributeName tag (read ++ [c])) := by
        intro c hc read
        exact if_pos (List.all_eq_true.mp h.2 c hc)
      rw [foldlM_cons_of_eq hbegin, foldlM_next? hmore, List.singleton_append]

/-- The value of an attribute is read up to the quotation mark. -/
lemma foldlM_value (h : '"' ∉ s) (tag : Tag) (name : List Char) :
    s.foldlM Place.next? (.value tag name []) = some (.value tag name s) := by
  refine foldlM_next? (fun c hc read => ?_) []
  simp [Place.next?, ne_of_mem_of_not_mem hc h]

/-- Text is read up to the next tag. -/
lemma foldlM_text (h : '<' ∉ s) (tag : Tag) :
    s.foldlM Place.next? (.text tag []) = some (.text tag s) := by
  refine foldlM_next? (fun c hc read => ?_) []
  simp [Place.next?, ne_of_mem_of_not_mem hc h]

/-! ## Attributes -/

/-- **One attribute.** -/
lemma foldlM_writeAttribute {a : String × Option String} (h : place.tag? = some tag)
    (ha : isAttributeName a.1.toList = true) :
    ∃ place', (writeAttribute a).foldlM Place.next? place = some place' ∧
      place'.tag? = some ⟨tag.name, tag.attributes ++ [a]⟩ := by
  have hspace := (next?_of_tag? h).1
  have hname := foldlM_attributeName ha tag
  rcases a with ⟨name, _ | value⟩
  · refine ⟨.attributeName tag name.toList, ?_, ?_⟩
    · rw [writeAttribute, foldlM_cons_of_eq hspace, hname]
    · simp [Place.tag?, Tag.add]
  · have hvalue := foldlM_value (not_mem_escaped value).2 tag name.toList
    have hequals : (Place.attributeName tag name.toList).next? '=' =
        some (.equals tag name.toList) := rfl
    have hopen : (Place.equals tag name.toList).next? '"' = some (.value tag name.toList []) := rfl
    have hclose : (Place.value tag name.toList (Entity.escapeChars value.toList)).next? '"' =
        some (.afterValue (tag.add name.toList (some value))) := by
      simp [Place.next?]
    refine ⟨.afterValue (tag.add name.toList (some value)), ?_, ?_⟩
    · rw [writeAttribute, foldlM_cons_of_eq hspace, foldlM_append_of_eq hname,
        foldlM_cons_of_eq hequals, foldlM_cons_of_eq hopen, foldlM_append_of_eq hvalue,
        foldlM_cons_of_eq hclose]
      rfl
    · simp [Place.tag?, Tag.add]

/-- **A run over attributes.** -/
lemma foldlM_writeAttributes {attributes : List (String × Option String)}
    (h : place.tag? = some tag) (ha : ∀ a ∈ attributes, isAttributeName a.1.toList = true) :
    ∃ place', (attributes.flatMap writeAttribute).foldlM Place.next? place = some place' ∧
      place'.tag? = some ⟨tag.name, tag.attributes ++ attributes⟩ := by
  induction attributes generalizing place tag with
  | nil => exact ⟨place, rfl, by simpa using h⟩
  | cons a attributes ih =>
      rw [List.forall_mem_cons] at ha
      obtain ⟨place', hfold, hplace'⟩ := foldlM_writeAttribute h ha.1
      obtain ⟨place'', hmore, hplace''⟩ := ih hplace' ha.2
      refine ⟨place'', ?_, ?_⟩
      · rw [List.flatMap_cons, foldlM_append_of_eq hfold, hmore]
      · rw [hplace'', List.append_assoc, List.singleton_append]

/-- What is read of a part after the character that begins its tag. -/
lemma Part.foldlM_tail {p : Part} (h : p.tag.isProper = true) (hwrite : p.write = '<' :: s) :
    s.foldlM Place.next? (.tagName []) =
      some (.text p.tag (Entity.escapeChars p.text.toList)) := by
  obtain rfl := (List.cons.inj hwrite).2
  obtain ⟨htag, hattributes⟩ := Bool.and_eq_true_iff.mp h
  have hname := foldlM_tagName htag
  have hend : (Place.tagName p.tag.name.toList).tag? = some ⟨p.tag.name, []⟩ := by
    simp [Place.tag?]
  obtain ⟨place', hread, hplace'⟩ := foldlM_writeAttributes hend (List.all_eq_true.mp hattributes)
  rw [List.append_assoc, foldlM_append_of_eq hname, foldlM_append_of_eq hread,
    foldlM_cons_of_eq (next?_of_tag? hplace').2, foldlM_text (not_mem_escaped p.text).1]
  rfl

/-! ## Parts -/

/-- Between tags the reader only changes its place. -/
lemma foldlM_take? (h : '<' ∉ s) (parts : List Part) (place : Place) :
    s.foldlM Reader.take? ⟨parts, place⟩ = (s.foldlM Place.next? place).map (⟨parts, ·⟩) := by
  induction s generalizing place with
  | nil => rfl
  | cons c s ih =>
      rw [List.mem_cons, not_or] at h
      rw [List.foldlM_cons, List.foldlM_cons, Reader.take?]
      cases place.next? c with
      | none => rfl
      | some next =>
          -- no tag begins here, so the parts stay as they are
          rw [Option.map_some, if_neg (Ne.symm h.1)]
          exact ih h.2 next

/-- A tag may begin where the text may end. -/
lemma take?_of_finish? {r : Reader} (h : r.finish? = some parts) :
    r.take? '<' = some ⟨parts, .tagName []⟩ := by
  obtain ⟨before, place⟩ := r
  cases place with
  | start =>
      obtain rfl := Option.some.inj h
      rfl
  | text tag read =>
      obtain rfl := Option.some.inj h
      rfl
  | _ => cases h

/-- **One part.**  The text may end after it, and it is then the last part. -/
theorem foldlM_write {r : Reader} (hr : r.finish? = some parts) {p : Part}
    (h : p.tag.isProper = true) :
    ∃ r', p.write.foldlM Reader.take? r = some r' ∧ r'.finish? = some (parts ++ [p]) := by
  obtain ⟨s, hwrite, hs⟩ := p.write_eq h
  refine ⟨⟨parts, .text p.tag (Entity.escapeChars p.text.toList)⟩, ?_, ?_⟩
  · rw [hwrite, foldlM_cons_of_eq (take?_of_finish? hr), foldlM_take? hs, p.foldlM_tail h hwrite,
      Option.map_some]
  · simp [Reader.finish?, Place.part?]

/-- **A run over parts.** -/
theorem foldlM_writes {r : Reader} (hr : r.finish? = some parts) {more : List Part}
    (h : ∀ p ∈ more, p.tag.isProper = true) :
    ∃ r', (more.flatMap Part.write).foldlM Reader.take? r = some r' ∧
      r'.finish? = some (parts ++ more) := by
  induction more generalizing r parts with
  | nil => exact ⟨r, rfl, by simpa using hr⟩
  | cons p more ih =>
      rw [List.forall_mem_cons] at h
      obtain ⟨r', hfold, hr'⟩ := foldlM_write hr h.1
      obtain ⟨r'', hmore, hr''⟩ := ih hr' h.2
      refine ⟨r'', ?_, ?_⟩
      · rw [List.flatMap_cons, foldlM_append_of_eq hfold, hmore]
      · rw [hr'', List.append_assoc, List.singleton_append]

/-- Parts that were written out are read again. -/
theorem read?_of_write {text : String} (h : ∀ p ∈ parts, p.tag.isProper = true)
    (htext : text.toList = parts.flatMap Part.write) : read? text = some parts := by
  have hstart : Reader.start.finish? = some [] := rfl
  obtain ⟨r, hfold, hr⟩ := foldlM_writes hstart h
  rw [read?, htext, hfold]
  exact hr

end KeyDirectory.Text.Markup
