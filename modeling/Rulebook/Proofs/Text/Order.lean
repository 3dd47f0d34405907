import Rulebook.Expectation

/-!
# Texts one behind the other

Texts occur in order in a text if it consists of them and of gaps.  A search that takes the first
occurrence of each text behind the one before leaves as much of the text as any other choice, so it
finds the texts whenever they occur in order.
-/

namespace Rulebook
namespace Text

/-! ### First occurrences -/

/-- A text that is split at a pattern consists of the two parts and the pattern between them. -/
theorem eq_append_of_splitAtFirst? {pattern text before after : List Char}
    (split : splitAtFirst? pattern text = some (before, after)) :
    text = before ++ pattern ++ after := by
  induction text generalizing before with
  | nil =>
      rw [splitAtFirst?] at split
      split at split
      · rename_i nothing
        cases split
        rw [List.isEmpty_iff.mp nothing]
        rfl
      · cases split
  | cons character rest induction =>
      rw [splitAtFirst?] at split
      split at split
      · rename_i begins
        cases split
        exact (List.prefix_iff_eq_append.mp (List.isPrefixOf_iff_prefix.mp begins)).symm
      · obtain ⟨later, found, same⟩ := Option.map_eq_some_iff.mp split
        cases same
        rw [induction found, List.cons_append, List.cons_append]

/-- Behind the first occurrence of a pattern stands whatever stands behind another occurrence. -/
theorem exists_splitAtFirst? (pattern before after : List Char) :
    ∃ front gap, splitAtFirst? pattern (before ++ (pattern ++ after)) = some (front, gap ++ after) := by
  induction before with
  | nil =>
      rw [List.nil_append]
      cases whole : pattern ++ after with
      | nil =>
          obtain ⟨rfl, rfl⟩ := List.append_eq_nil_iff.mp whole
          exact ⟨[], [], rfl⟩
      | cons character rest =>
          have begins : pattern.isPrefixOf (character :: rest) = true := by
            rw [← whole]
            exact List.isPrefixOf_iff_prefix.mpr (List.prefix_append pattern after)
          refine ⟨[], [], ?_⟩
          rw [splitAtFirst?, if_pos begins, ← whole, List.drop_left, List.nil_append]
  | cons character before induction =>
      rw [List.cons_append, splitAtFirst?]
      by_cases begins : pattern.isPrefixOf (character :: (before ++ (pattern ++ after))) = true
      · -- The pattern may overlap with its other occurrence, but ends no later.
        have inside : pattern.length ≤ (character :: (before ++ pattern)).length := by
          simp only [List.length_cons, List.length_append]
          omega
        refine ⟨[], (character :: (before ++ pattern)).drop pattern.length, ?_⟩
        rw [if_pos begins, ← List.append_assoc before, ← List.cons_append,
          List.drop_append_of_le_length inside]
      · obtain ⟨front, gap, found⟩ := induction
        refine ⟨character :: front, gap, ?_⟩
        rw [if_neg begins, found, Option.map_some]

/-! ### Texts in order -/

/-- Does a text consist of some texts in order, with a gap in front of them and one behind each? -/
def OccurInOrder (texts : List String) (whole : String) : Prop :=
  ∃ front gaps, gaps.length = texts.length ∧
    whole = front ++ String.join (List.zipWith (· ++ ·) texts gaps)

theorem occurInOrder_nil (whole : String) : OccurInOrder [] whole :=
  ⟨whole, [], rfl, by rw [List.zipWith_nil_left, String.join_nil, String.append_empty]⟩

/-- The first text stands somewhere, and the others stand in order behind it. -/
theorem occurInOrder_cons {text : String} {later : List String} {whole : String} :
    OccurInOrder (text :: later) whole ↔
      ∃ front rest, whole = front ++ (text ++ rest) ∧ OccurInOrder later rest := by
  constructor
  · rintro ⟨front, gaps, lengths, rfl⟩
    obtain ⟨gap, gaps, rfl⟩ := List.exists_cons_of_length_eq_add_one lengths
    refine ⟨front, gap ++ String.join (List.zipWith (· ++ ·) later gaps), ?_, ?_⟩
    · rw [List.zipWith_cons_cons, String.join_cons, String.append_assoc]
    · exact ⟨gap, gaps, Nat.succ.inj lengths, rfl⟩
  · rintro ⟨front, rest, rfl, gap, gaps, lengths, rfl⟩
    refine ⟨front, gap :: gaps, congrArg Nat.succ lengths, ?_⟩
    rw [List.zipWith_cons_cons, String.join_cons, String.append_assoc]

/-- More text in front of texts in order is part of the first gap. -/
theorem OccurInOrder.append {texts : List String} {whole : String}
    (ordered : OccurInOrder texts whole) (more : String) : OccurInOrder texts (more ++ whole) := by
  obtain ⟨front, gaps, lengths, rfl⟩ := ordered
  exact ⟨more ++ front, gaps, lengths, (String.append_assoc ..).symm⟩

end Text

namespace Expectation

/-- A search for first occurrences finds texts if and only if they occur in order. -/
theorem firstOutOfOrder?_eq_none_iff {needles : List String} {haystack : String} :
    firstOutOfOrder? haystack.toList needles = none ↔ Text.OccurInOrder needles haystack := by
  induction needles generalizing haystack with
  | nil => exact iff_of_true rfl (Text.occurInOrder_nil haystack)
  | cons needle later induction =>
      rw [firstOutOfOrder?, Text.occurInOrder_cons]
      constructor
      · intro found
        split at found
        · rename_i split first
          have whole := Text.eq_append_of_splitAtFirst? first
          rw [← String.toList_ofList (l := split.2)] at found
          refine ⟨String.ofList split.1, String.ofList split.2, ?_, induction.mp found⟩
          apply String.toList_injective
          simpa using whole
        · cases found
      · rintro ⟨front, rest, rfl, ordered⟩
        obtain ⟨first, gap, split⟩ :=
          Text.exists_splitAtFirst? needle.toList front.toList rest.toList
        have remaining := ordered.append (String.ofList gap)
        rw [String.toList_append, String.toList_append, split]
        have behind := induction.mpr remaining
        rwa [String.toList_append, String.toList_ofList] at behind

/-- The text that is named is the first that does not fit behind the ones before it. -/
theorem exists_of_firstOutOfOrder? {needles : List String} {haystack needle : String}
    (missing : firstOutOfOrder? haystack.toList needles = some needle) :
    ∃ found later, needles = found ++ needle :: later ∧ Text.OccurInOrder found haystack ∧
      ¬ Text.OccurInOrder (found ++ [needle]) haystack := by
  simp only [← firstOutOfOrder?_eq_none_iff]
  generalize haystack.toList = text at missing
  induction needles generalizing text with
  | nil => cases missing
  | cons first later induction =>
      rw [firstOutOfOrder?] at missing
      cases split : Text.splitAtFirst? first.toList text with
      | none =>
          rw [split] at missing
          cases missing
          refine ⟨[], later, rfl, rfl, ?_⟩
          rw [List.nil_append, firstOutOfOrder?, split]
          nofun
      | some rest =>
          rw [split] at missing
          obtain ⟨found, others, rfl, ordered, absent⟩ := induction rest.2 missing
          refine ⟨first :: found, others, rfl, ?_, ?_⟩
          · rw [firstOutOfOrder?, split]
            exact ordered
          · rw [List.cons_append, firstOutOfOrder?, split]
            exact absent

/-- Texts are found one behind the other exactly if the whole consists of them in order and of any
gaps, though each is only looked for at its first occurrence behind the one before. -/
theorem inOrder_eq_ok_iff (haystack : String) (needles : List String) :
    inOrder haystack needles = .ok () ↔
      ∃ front gaps, gaps.length = needles.length ∧
        haystack = front ++ String.join (List.zipWith (· ++ ·) needles gaps) := by
  have complete : firstOutOfOrder? haystack.toList needles = none ↔
      Text.OccurInOrder needles haystack := firstOutOfOrder?_eq_none_iff
  rw [← Text.OccurInOrder, ← complete, inOrder]
  cases firstOutOfOrder? haystack.toList needles with
  | none => exact iff_of_true rfl rfl
  | some needle => exact iff_of_false nofun nofun

/-- Occurrences that overlap are not one behind the other. -/
example : inOrder "abab" ["aba", "ab"] = .error (.notInOrder "ab" "abab") := by
  rfl

end Expectation
end Rulebook
