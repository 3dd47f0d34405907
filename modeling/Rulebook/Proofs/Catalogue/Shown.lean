import Rulebook.Catalogue.Entry
import Rulebook.Proofs.Document.Building

/-!
# What a description shows

The contents of a description are read as a row of characters: signs and texts show what they hold,
fillers show blanks, references the name of their target and links the token between their tags.
-/

namespace Rulebook

/-- The number of blanks for which a text stands, if it is a filler. -/
def fillerWidth? (value : String) : Option Nat :=
  let width := value.length / "&nbsp;".length
  if value = String.join (List.replicate width "&nbsp;") then some width else none

/-- A text as it shows; fillers show blanks. -/
def shownText (value : String) : List Char :=
  match fillerWidth? value with
  | some width => List.replicate width ' '
  | none => value.toList

/-- The text between the tags of a link. -/
def linkText (value : String) : List Char :=
  ((value.toList.reverse.drop "</a>".length).takeWhile (· != '>')).reverse

/-- What a content of a description shows. -/
def Markup.shown : Markup → List Char
  | .element "symbol" _ [.cdata sign] => sign.toList
  | .element "string" _ [.cdata value] => shownText value
  | .element "identifier" [("name", name)] _ => name.toList
  | .element "other" _ [.cdata value] => linkText value
  | .element "crlf" _ _ => ['\n']
  | _ => []

namespace Step

/-- What the contents written by steps show. -/
def shown (steps : List Step) : List Char :=
  (markupAll steps).flatMap Markup.shown

@[simp]
theorem shown_append (steps later : List Step) :
    shown (steps ++ later) = shown steps ++ shown later := by
  simp [shown, markupAll_eq]

theorem shown_element (name : String) (body : List Step) :
    shown [element name body] =
      (Markup.element name (body.filterMap attribute?) (markupAll body)).shown := by
  rw [shown, markupAll_eq, List.flatMap_singleton, markup, List.flatMap_singleton]

@[simp]
theorem shown_symbol (sign : String) : shown [symbol sign] = sign.toList :=
  shown_element "symbol" [cdata sign]

theorem shown_string (value : String) : shown [string value] = shownText value :=
  shown_element "string" [cdata value]

@[simp]
theorem shown_lineEnd : shown [lineEnd] = ['\n'] :=
  shown_element "crlf" []

theorem shown_identifier (name : String) :
    shown [Catalogue.Piece.identifier name] = name.toList :=
  shown_element "identifier" [setAttribute "name" name]

theorem toList_blanks (count : Nat) :
    (blanks count).toList = (List.replicate count "&nbsp;".toList).flatten := by
  simp [blanks, String.toList_join, List.flatMap_def]

theorem length_blanks (count : Nat) : (blanks count).length = count * "&nbsp;".length := by
  simp [← String.length_toList, toList_blanks]

theorem fillerWidth?_blanks (count : Nat) : fillerWidth? (blanks count) = some count := by
  have width : (blanks count).length / "&nbsp;".length = count := by
    rw [length_blanks, Nat.mul_div_cancel count (by decide)]
  rw [fillerWidth?, width]
  exact if_pos rfl

theorem shownText_blanks (count : Nat) : shownText (blanks count) = List.replicate count ' ' := by
  simp [shownText, fillerWidth?_blanks]

/-- A text without the sign that fillers begin with shows itself. -/
theorem shownText_of_not_mem {value : String} (plain : '&' ∉ value.toList) :
    shownText value = value.toList := by
  unfold shownText fillerWidth?
  dsimp only
  split
  · rename_i width found
    split at found
    · rename_i filler
      cases Option.some.inj found
      generalize value.length / "&nbsp;".length = width at filler ⊢
      rw [← blanks] at filler
      subst filler
      cases width with
      | zero => simp [toList_blanks]
      | succ width => simp [toList_blanks, List.replicate_succ] at plain
    · simp at found
  · rfl

@[simp]
theorem shown_whitespace (count : Nat) : shown [whitespace count] = List.replicate count ' ' :=
  (shown_string _).trans (shownText_blanks count)

/-- A link shows the token between its tags, whatever its address. -/
theorem shown_link {name : String} (address : String) (plain : '>' ∉ name.toList) :
    shown [Catalogue.Piece.link address name] = name.toList := by
  have whole : shown [Catalogue.Piece.link address name] =
      linkText ("<a href=\"" ++ address ++ "\" target=\"_blank\">" ++ name ++ "</a>") :=
    shown_element "other" [cdata _]
  have passes : ∀ character ∈ name.toList.reverse, (character != '>') = true := by
    intro character member
    rw [bne_iff_ne]
    rintro rfl
    exact plain (List.mem_reverse.mp member)
  rw [whole, linkText]
  simp only [String.toList_append, List.reverse_append]
  rw [List.drop_left' (by decide), List.takeWhile_append_of_pos passes]
  simp

end Step
end Rulebook
