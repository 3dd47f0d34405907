import Mathlib.Data.List.Basic
import Rulebook.Proofs.Document.XmlReading

/-!
# The signs of written documents

A written tree is read as its tags and its characters, whatever terminators and markup characters
its texts contain.  The starts of lines are read as characters too.
-/

namespace Rulebook
namespace Xml

/-! ### Characters -/

theorem signs?_of_readSigns? {text rest : List Char} {signs : List Sign}
    (read : readSigns? text = some (signs, rest)) :
    signs? text = (signs? rest).map (signs ++ ·) := by
  have some_text : text ≠ [] := by
    rintro rfl
    exact absurd (length_lt_of_readSigns? read) (Nat.not_lt_zero _)
  rw [signs?, if_neg some_text]
  split
  · simp_all
  · simp_all

theorem decode?_of_readCharacter? {text rest : List Char} {character : Char}
    (read : readCharacter? text = some (character, rest)) :
    decode? text = (decode? rest).map (character :: ·) := by
  have some_text : text ≠ [] := by
    rintro rfl
    simp [readCharacter?] at read
  rw [decode?, if_neg some_text]
  split
  · simp_all
  · simp_all

/-- A character is read as it was before it was written. -/
theorem readCharacter?_escapeCharacter (character : Char) (rest : List Char) :
    readCharacter? (escapeCharacter character ++ rest) = some (character, rest) := by
  fun_cases escapeCharacter character with
  | case1 | case2 | case3 | case4 | case5 => subst_vars; rfl
  | case6 less _ ampersand =>
      rw [List.singleton_append, readCharacter?, if_neg less, if_neg ampersand]

/-- An attribute value is read as it was before it was written. -/
theorem decode?_escape (value : String) : decode? (escape value) = some value.toList := by
  unfold escape
  induction value.toList with
  | nil => rw [List.flatMap_nil, decode?, if_pos rfl]
  | cons character rest induction =>
      rw [List.flatMap_cons, decode?_of_readCharacter? (readCharacter?_escapeCharacter character _),
        induction]
      rfl

theorem sectionOpening_eq : sectionOpening = ['<', '!', '[', 'C', 'D', 'A', 'T', 'A', '['] := by
  decide +kernel

theorem sectionClosing_eq : sectionClosing = [']', ']', '>'] := by
  decide +kernel

theorem readSigns?_of_ne {character : Char} (other : character ≠ '<') (rest : List Char) :
    readSigns? (character :: rest) =
      (readCharacter? (character :: rest)).map fun read => ([.character read.1], read.2) := by
  have plain : ¬ sectionOpening.isPrefixOf (character :: rest) = true := by
    rw [sectionOpening_eq, List.isPrefixOf_cons_cons, beq_false_of_ne (Ne.symm other), Bool.false_and]
    exact Bool.false_ne_true
  unfold readSigns?
  rw [← sectionOpening_eq, if_neg plain]
  split
  · rename_i same
    exact absurd (List.cons.inj same).1 other
  · rename_i same
    exact absurd (List.cons.inj same).1 other
  · rfl

theorem exists_escapeCharacter_eq_cons (character : Char) :
    ∃ head later, escapeCharacter character = head :: later ∧ head ≠ '<' := by
  fun_cases escapeCharacter character with
  | case1 | case2 | case3 | case4 | case5 => exact ⟨'&', _, rfl, by decide⟩
  | case6 less => exact ⟨character, [], rfl, less⟩

/-- Written text is read as its characters. -/
theorem signs?_escaped (text rest : List Char) :
    signs? (text.flatMap escapeCharacter ++ rest) =
      (signs? rest).map (characters text ++ ·) := by
  induction text with
  | nil => simp [characters]
  | cons character text induction =>
      have read : readSigns? (escapeCharacter character ++ (text.flatMap escapeCharacter ++ rest)) =
          some ([.character character], text.flatMap escapeCharacter ++ rest) := by
        obtain ⟨head, later, written, other⟩ := exists_escapeCharacter_eq_cons character
        have decoded := readCharacter?_escapeCharacter character
          (text.flatMap escapeCharacter ++ rest)
        rw [written, List.cons_append] at decoded ⊢
        rw [readSigns?_of_ne other, decoded]
        rfl
      rw [List.flatMap_cons, List.append_assoc, signs?_of_readSigns? read, induction,
        Option.map_map]
      rfl

theorem eq_of_mem_lineStart {depth : Nat} {breaks : Bool} {character : Char}
    (member : character ∈ lineStart depth breaks) : character = '\n' ∨ character = ' ' := by
  unfold lineStart at member
  split at member
  · exact (List.mem_cons.mp member).imp_right List.eq_of_mem_replicate
  · simp at member

/-- The start of a line is read as it is. -/
theorem signs?_lineStart (depth : Nat) (breaks : Bool) (rest : List Char) :
    signs? (lineStart depth breaks ++ rest) =
      (signs? rest).map (characters (lineStart depth breaks) ++ ·) := by
  have unescaped : (lineStart depth breaks).flatMap escapeCharacter = lineStart depth breaks := by
    have each : ∀ character ∈ lineStart depth breaks, escapeCharacter character = [character] := by
      intro character member
      rcases eq_of_mem_lineStart member with rfl | rfl <;> rfl
    rw [List.flatMap_congr each, List.flatMap_singleton']
  have read := signs?_escaped (lineStart depth breaks) rest
  rwa [unescaped] at read

/-! ### Sections -/

theorem readSigns?_sectionOpening (text : List Char) :
    readSigns? (sectionOpening ++ text) =
      (cutAt? sectionClosing text).map fun cut => (characters cut.1, cut.2) := by
  unfold readSigns?
  rw [← sectionOpening_eq, ← sectionClosing_eq, if_pos (by simp),
    List.drop_left' (by rw [sectionOpening_eq]; rfl)]

theorem cutAt?_cons {terminator rest : List Char} {character : Char}
    (other : terminator.isPrefixOf (character :: rest) = false) :
    cutAt? terminator (character :: rest) =
      (cutAt? terminator rest).map fun cut => (character :: cut.1, cut.2) := by
  rw [cutAt?, other, if_neg Bool.false_ne_true]

/-- Sections keep the first characters of their text. -/
theorem exists_sectionText_cons (character : Char) (text : List Char) :
    ∃ later, sectionText (character :: text) = character :: later := by
  unfold sectionText
  split
  · simp_all
  · simp_all
  · simp_all

/-- No terminator begins where the text has none. -/
theorem isPrefixOf_sectionClosing_eq_false {character : Char} {text : List Char}
    (other : ∀ later, character = ']' → text = ']' :: '>' :: later → False) (rest : List Char) :
    sectionClosing.isPrefixOf (character :: (sectionText text ++ sectionClosing ++ rest)) =
      false := by
  rw [sectionClosing_eq]
  match text with
  | [] => simp [sectionText, List.isPrefixOf]
  | [second] => simp [sectionText, List.isPrefixOf]
  | second :: third :: text =>
      have first_two : ∃ later, sectionText (second :: third :: text) = second :: third :: later := by
        unfold sectionText
        split
        · simp_all
        · obtain ⟨later, written⟩ := exists_sectionText_cons third text
          simp_all
        · simp_all
      obtain ⟨later, written⟩ := first_two
      rw [written, Bool.eq_false_iff]
      intro begins
      simp only [List.cons_append, List.isPrefixOf_cons_cons, Bool.and_eq_true, beq_iff_eq] at begins
      obtain ⟨first, second_eq, third_eq, -⟩ := begins
      exact other text first.symm (by rw [← second_eq, ← third_eq])

/-- From inside a section on, a text is read as it was before it was written. -/
theorem exists_cutAt?_sectionText (text rest : List Char) :
    ∃ before after,
      cutAt? sectionClosing (sectionText text ++ sectionClosing ++ rest) = some (before, after) ∧
        (signs? after).map (characters before ++ ·) = (signs? rest).map (characters text ++ ·) := by
  fun_induction sectionText text with
  | case1 text induction =>
      obtain ⟨before, after, cut, read⟩ := induction
      refine ⟨[']', ']'], sectionOpening ++ ('>' :: (sectionText text ++ sectionClosing ++ rest)),
        ?_, ?_⟩
      · simp [sectionClosing_eq, cutAt?, List.isPrefixOf]
      · have next : readSigns?
            (sectionOpening ++ ('>' :: (sectionText text ++ sectionClosing ++ rest))) =
              some (characters ('>' :: before), after) := by
          rw [readSigns?_sectionOpening, cutAt?_cons (by rw [sectionClosing_eq]; rfl), cut]
          rfl
        have more := congrArg (Option.map (characters [']', ']', '>'] ++ ·)) read
        rw [Option.map_map, Option.map_map] at more
        rw [signs?_of_readSigns? next, Option.map_map]
        exact more
  | case2 character text other induction =>
      obtain ⟨before, after, cut, read⟩ := induction
      refine ⟨character :: before, after, ?_, ?_⟩
      · simp only [List.cons_append]
        rw [cutAt?_cons (isPrefixOf_sectionClosing_eq_false other rest), cut]
        rfl
      · have more := congrArg (Option.map (Sign.character character :: ·)) read
        rw [Option.map_map, Option.map_map] at more
        exact more
  | case3 => exact ⟨[], rest, by simp [sectionClosing_eq, cutAt?, List.isPrefixOf], rfl⟩

/-- Text in sections is read as its characters, whatever terminators it contains. -/
theorem signs?_sections (value : String) (rest : List Char) :
    signs? (sections value ++ rest) = (signs? rest).map (characters value.toList ++ ·) := by
  obtain ⟨before, after, cut, read⟩ := exists_cutAt?_sectionText value.toList rest
  have first : readSigns? (sections value ++ rest) = some (characters before, after) := by
    rw [sections, List.append_assoc, List.append_assoc, readSigns?_sectionOpening,
      ← List.append_assoc, cut]
    rfl
  rw [signs?_of_readSigns? first, read]

/-! ### Tags -/

theorem isNameCharacter_of_isName {text : List Char} (named : isName text = true) :
    ∀ character ∈ text, isNameCharacter character = true := by
  cases text with
  | nil => simp [isName] at named
  | cons initial rest =>
      simp only [isName, Bool.and_eq_true, List.all_eq_true] at named
      refine List.forall_mem_cons.mpr ⟨?_, named.2⟩
      rw [isNameCharacter, named.1, Bool.true_or]

theorem exists_eq_cons_of_isName {text : List Char} (named : isName text = true) :
    ∃ initial rest, text = initial :: rest ∧ isNameStart initial = true := by
  cases text with
  | nil => simp [isName] at named
  | cons initial rest =>
      rw [isName, Bool.and_eq_true] at named
      exact ⟨initial, rest, rfl, named.1⟩

/-- A name is read up to the character after it. -/
theorem readName?_append {name : String} (named : isName name.toList = true) {next : Char}
    (other : isNameCharacter next = false) (rest : List Char) :
    readName? (name.toList ++ next :: rest) = some (name, next :: rest) := by
  have each := isNameCharacter_of_isName named
  have stops : ¬ isNameCharacter next = true := by simp [other]
  rw [readName?, List.takeWhile_append_of_pos each, List.dropWhile_append_of_pos each,
    List.takeWhile_cons_of_neg stops, List.dropWhile_cons_of_neg stops, List.append_nil,
    if_pos named, String.ofList_toList]

theorem ne_of_isNameStart {character : Char} (starts : isNameStart character = true) :
    isBlank character = false ∧ character ≠ '/' ∧ character ≠ '!' := by
  refine ⟨?_, ?_, ?_⟩
  · rw [Bool.eq_false_iff]
    intro blank
    simp only [isBlank, Bool.or_eq_true, beq_iff_eq] at blank
    rcases blank with ((rfl | rfl) | rfl) | rfl <;> exact absurd starts (by decide)
  · rintro rfl
    exact absurd starts (by decide)
  · rintro rfl
    exact absurd starts (by decide)

theorem cutAt?_of_not_mem {terminator : Char} {text : List Char} (free : terminator ∉ text)
    (rest : List Char) : cutAt? [terminator] (text ++ terminator :: rest) = some (text, rest) := by
  induction text with
  | nil => simp [cutAt?, List.isPrefixOf]
  | cons character text induction =>
      rw [List.mem_cons, not_or] at free
      have other : [terminator].isPrefixOf (character :: (text ++ terminator :: rest)) = false := by
        rw [List.isPrefixOf_cons_cons, beq_false_of_ne free.1, Bool.false_and]
      rw [List.cons_append, cutAt?_cons other, induction free.2]
      rfl

theorem quote_not_mem_escape (value : String) : '"' ∉ escape value := by
  intro member
  obtain ⟨character, -, inside⟩ := List.mem_flatMap.mp member
  revert inside
  fun_cases escapeCharacter character with
  | case1 | case2 | case3 | case4 | case5 => decide +kernel
  | case6 _ _ _ _ quote => exact fun inside => quote (List.mem_singleton.mp inside).symm

/-- An attribute is read as it was before it was written. -/
theorem readAttribute?_attributeText {entry : String × String}
    (named : isName entry.1.toList = true) (rest : List Char) :
    readAttribute? ((attributeText entry).tail ++ rest) = some (entry, rest) := by
  have text : (attributeText entry).tail ++ rest =
      entry.1.toList ++ '=' :: '"' :: (escape entry.2 ++ '"' :: rest) := by
    simp [attributeText]
  have value : readValue? ('=' :: '"' :: (escape entry.2 ++ '"' :: rest)) = some (entry.2, rest) := by
    have cut := cutAt?_of_not_mem (quote_not_mem_escape entry.2) rest
    unfold readValue?
    simp [isBlank, cut, decode?_escape]
  rw [text, readAttribute?, readName?_append named (by decide)]
  simp [value]

/-- Attributes are read as they were before they were written. -/
theorem readAttributes?_append {attributes : List (String × String)}
    (named : ∀ entry ∈ attributes, isName entry.1.toList = true) {next : Char}
    (other : isBlank next = false) (rest : List Char) :
    readAttributes? (attributes.flatMap attributeText ++ next :: rest) =
      some (attributes, next :: rest) := by
  induction attributes with
  | nil =>
      have stops : ¬ isBlank next = true := by simp [other]
      rw [List.flatMap_nil, List.nil_append, readAttributes?, List.dropWhile_cons_of_neg stops,
        if_neg (by simp)]
  | cons entry attributes induction =>
      rw [List.forall_mem_cons] at named
      let more := attributes.flatMap attributeText ++ next :: rest
      obtain ⟨initial, letters, text, starts⟩ := exists_eq_cons_of_isName named.1
      have first : (attributeText entry).tail ++ more =
          initial :: (letters ++ '=' :: '"' :: (escape entry.2 ++ '"' :: more)) := by
        simp [attributeText, text]
      have whole : (entry :: attributes).flatMap attributeText ++ next :: rest =
          ' ' :: ((attributeText entry).tail ++ more) := by
        simp [attributeText, more]
      have trimmed : (' ' :: ((attributeText entry).tail ++ more)).dropWhile isBlank =
          (attributeText entry).tail ++ more := by
        rw [List.dropWhile_cons_of_pos (by decide), first, List.dropWhile_cons_of_neg]
        simp [(ne_of_isNameStart starts).1]
      have enters : (attributeText entry).tail ++ more ≠ ' ' :: ((attributeText entry).tail ++ more) ∧
          ((attributeText entry).tail ++ more).head?.any isNameStart = true := by
        refine ⟨List.ne_cons_self, ?_⟩
        rw [first]
        exact starts
      rw [whole, readAttributes?, trimmed, if_pos enters]
      split
      · rename_i missing
        rw [readAttribute?_attributeText named.1] at missing
        simp at missing
      · rename_i found
        rw [readAttribute?_attributeText named.1] at found
        cases found
        rw [induction named.2]
        rfl

theorem readName?_tag {name : String} (named : isName name.toList = true)
    (attributes : List (String × String)) {next : Char} (other : isNameCharacter next = false)
    (rest : List Char) :
    readName? (tag name attributes ++ next :: rest) =
      some (name, attributes.flatMap attributeText ++ next :: rest) := by
  cases attributes with
  | nil => simpa [tag] using readName?_append named other rest
  | cons entry attributes =>
      simpa [tag, attributeText] using readName?_append named (by decide : isNameCharacter ' ' = false) _

theorem readSigns?_tag {name : String} (named : isName name.toList = true)
    (attributes : List (String × String)) (rest : List Char) :
    readSigns? ('<' :: (tag name attributes ++ rest)) =
      readOpening? (tag name attributes ++ rest) := by
  obtain ⟨initial, letters, text, starts⟩ := exists_eq_cons_of_isName named
  obtain ⟨-, no_end, no_section⟩ := ne_of_isNameStart starts
  have plain : ¬ sectionOpening.isPrefixOf ('<' :: (tag name attributes ++ rest)) = true := by
    simp [sectionOpening_eq, tag, text, List.isPrefixOf, Ne.symm no_section]
  unfold readSigns?
  rw [← sectionOpening_eq, if_neg plain]
  split
  · rename_i same
    simp [tag, text, no_end] at same
  · rename_i same
    rw [(List.cons.inj same).2]
  · rename_i other
    exact absurd rfl (other _)

/-- The tag of an element that has contents is read as the beginning of the element. -/
theorem signs?_opening {name : String} {attributes : List (String × String)}
    (named : isName name.toList = true)
    (marked : ∀ entry ∈ attributes, isName entry.1.toList = true) (rest : List Char) :
    signs? ('<' :: (tag name attributes ++ '>' :: rest)) =
      (signs? rest).map (.opening name attributes :: ·) := by
  change _ = (signs? rest).map ([.opening name attributes] ++ ·)
  apply signs?_of_readSigns?
  rw [readSigns?_tag named, readOpening?, readName?_tag named attributes (by decide),
    Option.bind_some, readAttributes?_append marked (by decide), Option.bind_some]
  rfl

/-- The tag of an element without contents is read as the whole element. -/
theorem signs?_empty {name : String} {attributes : List (String × String)}
    (named : isName name.toList = true)
    (marked : ∀ entry ∈ attributes, isName entry.1.toList = true) (rest : List Char) :
    signs? ('<' :: (tag name attributes ++ '/' :: '>' :: rest)) =
      (signs? rest).map ([.opening name attributes, .closing name] ++ ·) := by
  apply signs?_of_readSigns?
  rw [readSigns?_tag named, readOpening?, readName?_tag named attributes (by decide),
    Option.bind_some, readAttributes?_append marked (by decide), Option.bind_some]
  rfl

/-- The tag at the end of an element is read as its end. -/
theorem signs?_closing {name : String} (named : isName name.toList = true) (rest : List Char) :
    signs? ('<' :: '/' :: (name.toList ++ '>' :: rest)) =
      (signs? rest).map (.closing name :: ·) := by
  have plain : ¬ sectionOpening.isPrefixOf ('<' :: '/' :: (name.toList ++ '>' :: rest)) = true := by
    simp [sectionOpening_eq, List.isPrefixOf]
  change _ = (signs? rest).map ([.closing name] ++ ·)
  apply signs?_of_readSigns?
  unfold readSigns?
  rw [← sectionOpening_eq, if_neg plain]
  simp only [readClosing?]
  rw [readName?_append named (by decide), Option.bind_some, List.dropWhile_cons_of_neg (by decide)]
  rfl

/-! ### Trees -/

/-- A tree with readable names, in which no element contains both elements and text. -/
inductive IsLegible : Tree → Prop where
  /-- Text. -/
  | text (value : String) : IsLegible (.text value)
  /-- Text that is written as it is. -/
  | cdata (value : String) : IsLegible (.cdata value)
  /-- An element. -/
  | element {id : ElementId} {name : String} {attributes : List (String × String)}
      {children : List Tree} (named : isName name.toList = true)
      (marked : ∀ entry ∈ attributes, isName entry.1.toList = true)
      (unmixed : (∀ child ∈ children, child.isElement = true) ∨
        ∀ child ∈ children, child.isElement = false)
      (below : ∀ child ∈ children, IsLegible child) :
      IsLegible (.element id name attributes children)

mutual

/-- The signs of which a tree consists when it is written at a level. -/
def treeSigns (depth : Nat) (breaks : Bool) : Tree → List Sign
  | .text value => characters value.toList
  | .cdata value => characters value.toList
  | .element _ name attributes children =>
      characters (lineStart depth breaks) ++ .opening name attributes ::
        if children.isEmpty then [.closing name]
        else
          rowSigns (depth + 1) true children ++
            characters (lineStart depth (breaksAfter children)) ++ [.closing name]

/-- The signs of which a row of trees consists. -/
def rowSigns (depth : Nat) (breaks : Bool) : List Tree → List Sign
  | [] => []
  | tree :: later => treeSigns depth breaks tree ++ rowSigns depth tree.isElement later

end

theorem signs?_writeAll {children : List Tree}
    (each : ∀ child ∈ children, ∀ depth breaks rest, signs? (write depth breaks child ++ rest) =
      (signs? rest).map (treeSigns depth breaks child ++ ·))
    (depth : Nat) (breaks : Bool) (rest : List Char) :
    signs? (writeAll depth breaks children ++ rest) =
      (signs? rest).map (rowSigns depth breaks children ++ ·) := by
  induction children generalizing breaks with
  | nil => simp [writeAll, rowSigns]
  | cons child children induction =>
      rw [List.forall_mem_cons] at each
      rw [writeAll, rowSigns, List.append_assoc, each.1, induction each.2, Option.map_map]
      simp [Function.comp_def]

/-- A written tree is read as its signs. -/
theorem signs?_write {tree : Tree} (legible : IsLegible tree) (depth : Nat) (breaks : Bool)
    (rest : List Char) :
    signs? (write depth breaks tree ++ rest) =
      (signs? rest).map (treeSigns depth breaks tree ++ ·) := by
  induction legible generalizing depth breaks rest with
  | text value => exact signs?_escaped value.toList rest
  | cdata value => exact signs?_sections value rest
  | @element id name attributes children named marked _ _ induction =>
      rw [write, treeSigns]
      by_cases childless : children.isEmpty = true
      · rw [if_pos childless, if_pos childless]
        simp only [List.append_assoc, List.cons_append, List.nil_append]
        rw [signs?_lineStart, signs?_empty named marked, Option.map_map]
        rfl
      · rw [if_neg childless, if_neg childless]
        simp only [List.append_assoc, List.cons_append, List.nil_append]
        rw [signs?_lineStart, signs?_opening named marked, signs?_writeAll induction,
          signs?_lineStart, signs?_closing named]
        simp only [Option.map_map, Function.comp_def]

end Xml
end Rulebook
