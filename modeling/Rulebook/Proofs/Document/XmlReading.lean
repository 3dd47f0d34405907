import Rulebook.Document.Xml
import Rulebook.Proofs.Document.Arena
import Rulebook.Unicode.CodeRange

/-!
# Reading written documents

A written document is read in two steps.  The text is cut into signs: tags and single characters,
where references to the predefined entities stand for their characters and a section stands for what
is in it up to its first terminator.  The signs are then put together to markup: characters run
together to texts, and blank texts do not count next to elements.
-/

namespace Rulebook
namespace Xml

/-! ### Names -/

/-- The characters with which a name can begin, in ascending order. -/
def nameStartRanges : List Unicode.CodeRange :=
  [⟨0x3A, 0x3A⟩, ⟨0x41, 0x5A⟩, ⟨0x5F, 0x5F⟩, ⟨0x61, 0x7A⟩, ⟨0xC0, 0xD6⟩, ⟨0xD8, 0xF6⟩,
   ⟨0xF8, 0x2FF⟩, ⟨0x370, 0x37D⟩, ⟨0x37F, 0x1FFF⟩, ⟨0x200C, 0x200D⟩, ⟨0x2070, 0x218F⟩,
   ⟨0x2C00, 0x2FEF⟩, ⟨0x3001, 0xD7FF⟩, ⟨0xF900, 0xFDCF⟩, ⟨0xFDF0, 0xFFFD⟩, ⟨0x10000, 0xEFFFF⟩]

/-- The characters that can only follow in a name, in ascending order. -/
def nameRestRanges : List Unicode.CodeRange :=
  [⟨0x2D, 0x2E⟩, ⟨0x30, 0x39⟩, ⟨0xB7, 0xB7⟩, ⟨0x300, 0x36F⟩, ⟨0x203F, 0x2040⟩]

/-- Can a name begin with the character? -/
def isNameStart (character : Char) : Bool :=
  Unicode.CodeRange.covers nameStartRanges character

/-- Can a name contain the character? -/
def isNameCharacter (character : Char) : Bool :=
  isNameStart character || Unicode.CodeRange.covers nameRestRanges character

/-- Is the text a name of an element or of an attribute? -/
def isName (text : List Char) : Bool :=
  match text with
  | [] => false
  | initial :: rest => isNameStart initial && rest.all isNameCharacter

/-- Reads a name as far as it goes. -/
def readName? (text : List Char) : Option (String × List Char) :=
  if isName (text.takeWhile isNameCharacter) then
    some (String.ofList (text.takeWhile isNameCharacter), text.dropWhile isNameCharacter)
  else none

/-! ### Characters and attributes -/

/-- The white space of written documents. -/
def isBlank (character : Char) : Bool :=
  character == ' ' || character == '\t' || character == '\r' || character == '\n'

/-- The text before the first terminator, and the text after it. -/
def cutAt? (terminator : List Char) : List Char → Option (List Char × List Char)
  | [] => none
  | character :: rest =>
      if terminator.isPrefixOf (character :: rest) then
        some ([], (character :: rest).drop terminator.length)
      else (cutAt? terminator rest).map fun cut => (character :: cut.1, cut.2)

/-- The character of a predefined entity. -/
def entity? (name : List Char) : Option Char :=
  if name = "lt".toList then some '<'
  else if name = "gt".toList then some '>'
  else if name = "amp".toList then some '&'
  else if name = "apos".toList then some '\''
  else if name = "quot".toList then some '"'
  else none

/-- Reads a character that stands for itself or is given by an entity. -/
def readCharacter? : List Char → Option (Char × List Char)
  | [] => none
  | character :: rest =>
      if character = '<' then none
      else if character = '&' then
        (cutAt? [';'] rest).bind fun cut => (entity? cut.1).map fun decoded => (decoded, cut.2)
      else some (character, rest)

theorem length_lt_of_cutAt? {terminator text : List Char} {cut : List Char × List Char}
    (some_terminator : terminator ≠ []) (found : cutAt? terminator text = some cut) :
    cut.2.length < text.length := by
  induction text generalizing cut with
  | nil => simp [cutAt?] at found
  | cons character rest induction =>
      rw [cutAt?] at found
      split at found
      · cases found
        have := List.length_pos_iff.mpr some_terminator
        simp only [List.length_drop, List.length_cons]
        omega
      · obtain ⟨later, inside, rfl⟩ := Option.map_eq_some_iff.mp found
        have shorter := induction inside
        exact Nat.lt_succ_of_lt shorter

theorem length_lt_of_readCharacter? {text : List Char} {read : Char × List Char}
    (found : readCharacter? text = some read) : read.2.length < text.length := by
  cases text with
  | nil => simp [readCharacter?] at found
  | cons character rest =>
      rw [readCharacter?] at found
      split at found
      · simp at found
      · split at found
        · obtain ⟨cut, inside, decoded⟩ := Option.bind_eq_some_iff.mp found
          obtain ⟨_, _, rfl⟩ := Option.map_eq_some_iff.mp decoded
          exact Nat.lt_succ_of_lt (length_lt_of_cutAt? (by simp) inside)
        · cases found
          exact Nat.lt_succ_self _

/-- The characters for which a text stands. -/
def decode? (text : List Char) : Option (List Char) :=
  if text = [] then some []
  else
    match _ : readCharacter? text with
    | none => none
    | some (character, rest) => (decode? rest).map (character :: ·)
  termination_by text.length
  decreasing_by exact length_lt_of_readCharacter? (by assumption)

/-- Reads the equality sign and the value of an attribute, between quotes of either form. -/
def readValue? (text : List Char) : Option (String × List Char) :=
  match text.dropWhile isBlank with
  | '=' :: rest =>
      match rest.dropWhile isBlank with
      | [] => none
      | quote :: rest =>
          if quote = '"' ∨ quote = '\'' then
            (cutAt? [quote] rest).bind fun cut =>
              (decode? cut.1).map fun value => (String.ofList value, cut.2)
          else none
  | _ => none

/-- Reads a name with a value. -/
def readAttribute? (text : List Char) : Option ((String × String) × List Char) :=
  (readName? text).bind fun named =>
    (readValue? named.2).map fun valued => ((named.1, valued.1), valued.2)

theorem length_le_of_readName? {text : List Char} {read : String × List Char}
    (found : readName? text = some read) : read.2.length ≤ text.length := by
  unfold readName? at found
  split at found
  · cases found
    exact (List.dropWhile_sublist _).length_le
  · simp at found

theorem length_lt_of_readValue? {text : List Char} {read : String × List Char}
    (found : readValue? text = some read) : read.2.length < text.length := by
  unfold readValue? at found
  have before := (List.dropWhile_sublist isBlank (l := text)).length_le
  split at found
  · rename_i rest equal
    have between := (List.dropWhile_sublist isBlank (l := rest)).length_le
    split at found
    · simp at found
    · rename_i quote value opened
      split at found
      · obtain ⟨cut, inside, decoded⟩ := Option.bind_eq_some_iff.mp found
        obtain ⟨_, _, rfl⟩ := Option.map_eq_some_iff.mp decoded
        have after := length_lt_of_cutAt? (by simp) inside
        simp only [equal, opened, List.length_cons] at before between ⊢
        omega
      · simp at found
  · simp at found

theorem length_lt_of_readAttribute? {text : List Char} {read : (String × String) × List Char}
    (found : readAttribute? text = some read) : read.2.length < text.length := by
  obtain ⟨named, name_found, rest⟩ := Option.bind_eq_some_iff.mp found
  obtain ⟨valued, value_found, rfl⟩ := Option.map_eq_some_iff.mp rest
  exact Nat.lt_of_lt_of_le (length_lt_of_readValue? value_found) (length_le_of_readName? name_found)

/-- Reads attributes, each behind a blank, and the blanks after them. -/
def readAttributes? (text : List Char) : Option (List (String × String) × List Char) :=
  if text.dropWhile isBlank ≠ text ∧ (text.dropWhile isBlank).head?.any isNameStart = true then
    match _ : readAttribute? (text.dropWhile isBlank) with
    | none => none
    | some (entry, rest) => (readAttributes? rest).map fun read => (entry :: read.1, read.2)
  else some ([], text.dropWhile isBlank)
  termination_by text.length
  decreasing_by
    have shorter := length_lt_of_readAttribute? (by assumption)
    exact Nat.lt_of_lt_of_le shorter (List.dropWhile_sublist isBlank).length_le

/-! ### Signs -/

/-- What a written document consists of. -/
inductive Sign where
  /-- The tag with which an element begins. -/
  | opening (name : String) (attributes : List (String × String))
  /-- The tag with which an element ends. -/
  | closing (name : String)
  /-- A character of a text. -/
  | character (value : Char)
  deriving DecidableEq, Repr

/-- The signs of a text. -/
def characters (text : List Char) : List Sign :=
  text.map .character

/-- Reads the rest of a tag that begins an element, which may end the element too. -/
def readOpening? (text : List Char) : Option (List Sign × List Char) :=
  (readName? text).bind fun named =>
    (readAttributes? named.2).bind fun marked =>
      match marked.2 with
      | '>' :: rest => some ([.opening named.1 marked.1], rest)
      | '/' :: '>' :: rest => some ([.opening named.1 marked.1, .closing named.1], rest)
      | _ => none

/-- Reads the rest of a tag that ends an element. -/
def readClosing? (text : List Char) : Option (List Sign × List Char) :=
  (readName? text).bind fun named =>
    match named.2.dropWhile isBlank with
    | '>' :: rest => some ([.closing named.1], rest)
    | _ => none

/-- Reads the signs at the front: a section, a tag or a character. -/
def readSigns? (text : List Char) : Option (List Sign × List Char) :=
  if ['<', '!', '[', 'C', 'D', 'A', 'T', 'A', '['].isPrefixOf text then
    (cutAt? [']', ']', '>'] (text.drop 9)).map fun cut => (characters cut.1, cut.2)
  else
    match text with
    | '<' :: '/' :: rest => readClosing? rest
    | '<' :: rest => readOpening? rest
    | text => (readCharacter? text).map fun read => ([.character read.1], read.2)

theorem length_le_of_readAttributes? {text : List Char}
    {read : List (String × String) × List Char} (found : readAttributes? text = some read) :
    read.2.length ≤ text.length := by
  fun_induction readAttributes? text generalizing read with
  | case1 => simp at found
  | case2 text _ entry rest entry_found induction =>
      obtain ⟨others, inside, rfl⟩ := Option.map_eq_some_iff.mp found
      have here := length_lt_of_readAttribute? entry_found
      have before := (List.dropWhile_sublist isBlank (l := text)).length_le
      have after := induction inside
      dsimp only at here ⊢
      omega
  | case3 text =>
      cases found
      exact (List.dropWhile_sublist _).length_le

theorem length_lt_of_readOpening? {text : List Char} {read : List Sign × List Char}
    (found : readOpening? text = some read) : read.2.length < text.length := by
  obtain ⟨named, name_found, tagged⟩ := Option.bind_eq_some_iff.mp found
  obtain ⟨marked, marks_found, ended⟩ := Option.bind_eq_some_iff.mp tagged
  have name_le := length_le_of_readName? name_found
  have marks_le := length_le_of_readAttributes? marks_found
  have rest_lt : read.2.length < marked.2.length := by
    split at ended
    · rename_i rest equal
      cases ended
      simp [equal]
    · rename_i rest equal
      cases ended
      simp only [equal, List.length_cons]
      omega
    · simp at ended
  omega

theorem length_lt_of_readClosing? {text : List Char} {read : List Sign × List Char}
    (found : readClosing? text = some read) : read.2.length < text.length := by
  obtain ⟨named, name_found, ended⟩ := Option.bind_eq_some_iff.mp found
  have name_le := length_le_of_readName? name_found
  have blanks_le := (List.dropWhile_sublist isBlank (l := named.2)).length_le
  split at ended
  · rename_i rest equal
    cases ended
    simp only [equal, List.length_cons] at blanks_le ⊢
    omega
  · simp at ended

theorem length_lt_of_readSigns? {text : List Char} {read : List Sign × List Char}
    (found : readSigns? text = some read) : read.2.length < text.length := by
  unfold readSigns? at found
  split at found
  · obtain ⟨cut, inside, rfl⟩ := Option.map_eq_some_iff.mp found
    have shorter := length_lt_of_cutAt? (by decide) inside
    rw [List.length_drop] at shorter
    dsimp only
    omega
  · split at found
    · have shorter := length_lt_of_readClosing? found
      simp only [List.length_cons]
      omega
    · exact Nat.lt_succ_of_lt (length_lt_of_readOpening? found)
    · obtain ⟨character, inside, rfl⟩ := Option.map_eq_some_iff.mp found
      exact length_lt_of_readCharacter? inside

/-- The signs of which a text consists. -/
def signs? (text : List Char) : Option (List Sign) :=
  if text = [] then some []
  else
    match _ : readSigns? text with
    | none => none
    | some (signs, rest) => (signs? rest).map (signs ++ ·)
  termination_by text.length
  decreasing_by exact length_lt_of_readSigns? (by assumption)

end Xml

/-! ### Markup -/

namespace Markup

/-- Is it an element? -/
def isElement : Markup → Bool
  | element .. => true
  | _ => false

/-- Is it a text of white space? -/
def isBlank : Markup → Bool
  | text value => value.toList.all Xml.isBlank
  | _ => false

mutual

/-- The text in some markup, from left to right. -/
def textContent : Markup → String
  | element _ _ contents => textContentAll contents
  | text value => value
  | cdata value => value

/-- The text in contents, from left to right. -/
def textContentAll : List Markup → String
  | [] => ""
  | markup :: later => textContent markup ++ textContentAll later

end
end Markup

namespace Xml

/-- An element that has begun. -/
structure OpenElement where
  /-- The name. -/
  name : String
  /-- Keys and values. -/
  attributes : List (String × String)
  /-- What stands before the element beside it, the last first. -/
  earlier : List Markup

/-- Adds a character to contents, whose last is given first. -/
def addCharacter (contents : List Markup) (character : Char) : List Markup :=
  match contents with
  | .text value :: earlier => .text (value.push character) :: earlier
  | contents => .text (String.singleton character) :: contents

/-- The contents of an element; blank texts next to elements do not count. -/
def settled (contents : List Markup) : List Markup :=
  if contents.any Markup.isElement then contents.filter fun content => !content.isBlank
  else contents

/-- Puts signs together.  `outer` holds the elements that have begun, the innermost first, and
`inner` the contents of the innermost so far, the last first. -/
def assemble (outer : List OpenElement) (inner : List Markup) : List Sign → Option (List Markup)
  | [] => if outer.isEmpty then some (settled inner.reverse) else none
  | .opening name attributes :: later => assemble (⟨name, attributes, inner⟩ :: outer) [] later
  | .character value :: later => assemble outer (addCharacter inner value) later
  | .closing name :: later =>
      match outer with
      | [] => none
      | ⟨opened, attributes, earlier⟩ :: outer =>
          if name = opened then
            assemble outer (.element name attributes (settled inner.reverse) :: earlier) later
          else none

/-- The text after the declaration of a document, if it has one. -/
def body? (text : List Char) : Option (List Char) :=
  if "<?xml".toList.isPrefixOf text then (cutAt? "?>".toList text).map Prod.snd else some text

/-- The one element of a document. -/
def read? (text : List Char) : Option Markup :=
  (body? text).bind fun body => (signs? body).bind fun signs => (assemble [] [] signs).bind fun
    | [.element name attributes contents] => some (.element name attributes contents)
    | _ => none

end Xml
end Rulebook
