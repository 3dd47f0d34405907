import Rulebook.Proofs.Notation.Locality

/-!
# Labels of elements

A label says nothing about what its element matches, so an element reads the same with a label and
without one, wherever it stands in a rule.  Only a negation takes no label in front of its sign: the
label is looked for behind it.
-/

namespace Rulebook
namespace Notation

/-- A name and an equals sign, or a name and a plus sign with the equals sign directly behind. -/
inductive IsLabel : List TokenTree → Prop where
  /-- A label of one element. -/
  | single (name : String) (line : Nat) (joint : Bool) :
      IsLabel [word line name, .leaf (.mark '=' joint)]
  /-- A label of a list of elements. -/
  | list (name : String) (line : Nat) (joint : Bool) :
      IsLabel [word line name, .leaf (.mark '+' true), .leaf (.mark '=' joint)]

theorem IsLabel.skipLabel {label : List TokenTree} (labels : IsLabel label) (items : List Item) :
    skipLabel (TokenTree.items label ++ items) = items := by
  cases labels <;> simp [TokenTree.items, TokenTree.item, Notation.skipLabel, startsWithPair,
    startsWithMark, word]

theorem IsLabel.startsPlainly {label : List TokenTree} (labels : IsLabel label)
    (items : List Item) : startsPlainly (TokenTree.items label ++ items) = true := by
  cases labels <;> rfl

/-- No label stands in front of the tokens. -/
def Unlabelled (items : List Item) : Prop :=
  skipLabel items = items

/-! ### Labels in front of an element -/

theorem startsPlainly_of_readBareAtom {items rest : List Item} {node : Node}
    (read : readBareAtom items = .ok (node, rest)) : startsPlainly items = true := by
  revert read
  fun_cases readBareAtom items <;> simp [startsPlainly]

/-- An element without a negation sign begins with an atom, so with no punctuation. -/
theorem startsPlainly_of_readElement {items rest : List Item} {node : Node}
    (bare : Unlabelled items) (positive : startsWithMark '~' items = false)
    (read : readElement items = .ok (node, rest)) : startsPlainly items = true := by
  obtain ⟨inner, middle, ranged, _⟩ := readElement_eq_ok.mp read
  simp only [positive, Bool.false_eq_true, if_false] at ranged
  obtain ⟨left, after, first, _⟩ := readRange_eq_ok.mp ranged
  rw [readAtom, bare] at first
  exact startsPlainly_of_readBareAtom first

theorem readRange_label {label : List TokenTree} (labels : IsLabel label) {items : List Item}
    (bare : Unlabelled items) :
    readRange (TokenTree.items label ++ items) = readRange items := by
  rw [readRange, readRange, readAtom, readAtom, labels.skipLabel, bare]

theorem readElement_label {label : List TokenTree} (labels : IsLabel label) {items : List Item}
    (bare : Unlabelled items) (positive : startsWithMark '~' items = false) :
    readElement (TokenTree.items label ++ items) = readElement items := by
  have unsigned := startsWithMark_of_startsPlainly (labels.startsPlainly items) '~'
  rw [readElement, readElement, unsigned, positive]
  simp only [Bool.false_eq_true, if_false, readRange_label labels bare]

/-- The label behind a negation sign is one of the atom there. -/
theorem readElement_label_behind_sign {label : List TokenTree} (labels : IsLabel label)
    {items : List Item} (bare : Unlabelled items) (joint : Bool) :
    readElement (.leaf (.mark '~' joint) :: (TokenTree.items label ++ items)) =
      readElement (.leaf (.mark '~' joint) :: items) := by
  have signed : ∀ items, startsWithMark '~' (.leaf (.mark '~' joint) :: items) = true :=
    fun _ => rfl
  rw [readElement, readElement, signed, signed]
  simp only [if_true, List.drop_succ_cons, List.drop_zero, readRange_label labels bare]

/-- A negation sign is no atom, so it cannot follow a label. -/
theorem readElement_label_before_sign {label : List TokenTree} (labels : IsLabel label)
    {items : List Item} (negative : startsWithMark '~' items = true) :
    readElement (TokenTree.items label ++ items) = .error (.missing .element false) := by
  have unsigned := startsWithMark_of_startsPlainly (labels.startsPlainly items) '~'
  have refused : readAtom (TokenTree.items label ++ items) = .error (.missing .element false) := by
    rw [readAtom, labels.skipLabel]
    fun_cases startsWithMark '~' items
    · rfl
    · simp_all [startsWithMark]
  rw [readElement, unsigned]
  simp [readRange, refused]

/-! ### Labels in a row of alternatives -/

/-- Where alternatives stand. -/
inductive Place where
  /-- Between round brackets. -/
  | group
  /-- Behind the colon of a rule. -/
  | rule

namespace Place

/-- Does an alternative end before the tokens? -/
def ends : Place → List Item → Bool
  | group => endsInGroup
  | rule => endsInRule

/-- What is left behind the commands and the label of an alternative; only one of a rule has
them. -/
def skipTail : Place → List Item → Except Fault (List Item)
  | group, items => .ok items
  | rule, items => (skipCommandList items).bind skipAlternativeLabel

/-- Reads the alternatives. -/
def read : Place → List Item → Reading (List Node)
  | group, items => (readChoice items).map fun alternatives => (alternatives, [])
  | rule, items => readAlternatives items

theorem ends_of_startsPlainly (place : Place) {items : List Item}
    (plain : startsPlainly items = true) : place.ends items = false := by
  cases place <;>
    simp [ends, endsInGroup, endsInRule, ne_nil_of_startsPlainly plain,
      startsWithMark_of_startsPlainly plain, startsWithPair_of_startsPlainly plain]

theorem ends_append (place : Place) {front : List Item} (plain : startsPlainly front = true)
    (items : List Item) :
    place.ends (items ++ front) = (!items.isEmpty && place.ends items) := by
  have some := ne_nil_of_startsPlainly plain
  cases items with
  | nil => simp [ends_of_startsPlainly place plain]
  | cons item items =>
      cases place <;>
        simp only [ends, endsInGroup, endsInRule, startsWithMark_append plain,
          startsWithPair_append plain] <;> simp

theorem skipTail_rule_eq_ok {items rest : List Item} :
    rule.skipTail items = .ok rest ↔
      ∃ middle, skipCommandList items = .ok middle ∧ skipAlternativeLabel middle = .ok rest :=
  Except.bind_eq_ok

theorem skipTail_append_iff (place : Place) {front : List Item}
    (plain : startsPlainly front = true) {items rest : List Item} (some : rest ≠ []) :
    place.skipTail (items ++ front) = .ok (rest ++ front) ↔ place.skipTail items = .ok rest := by
  cases place with
  | group => simp [skipTail]
  | rule =>
      rw [skipTail_rule_eq_ok, skipTail_rule_eq_ok]
      constructor
      · rintro ⟨middle, commands, label⟩
        obtain ⟨more, rfl⟩ := suffix_of_skipAlternativeLabel label
        rw [← List.append_assoc] at commands label
        exact ⟨_, (skipCommandList_append_iff plain (by simp [some])).mp commands,
          (skipAlternativeLabel_append_iff plain).mp label⟩
      · rintro ⟨middle, commands, label⟩
        have more : middle ≠ [] := by
          rintro rfl
          exact some (List.suffix_nil.mp (suffix_of_skipAlternativeLabel label))
        exact ⟨middle ++ front, (skipCommandList_append_iff plain more).mpr commands,
          (skipAlternativeLabel_append_iff plain).mpr label⟩

theorem suffix_of_skipTail {place : Place} {items rest : List Item}
    (skip : place.skipTail items = .ok rest) : rest <:+ items := by
  cases place with
  | group => exact Except.ok.inj skip ▸ List.suffix_refl items
  | rule =>
      obtain ⟨middle, commands, label⟩ := skipTail_rule_eq_ok.mp skip
      exact (suffix_of_skipAlternativeLabel label).trans (suffix_of_skipCommandList commands)

/-- The alternatives with one more element at the front of the first. -/
def addToFirst (node : Node) : List Node → List Node
  | [] => []
  | .mk kind children :: later => .mk kind (node :: children) :: later

end Place

theorem ends_of_readElements {ends : List Item → Bool} {items rest : List Item}
    {nodes : List Node} (read : readElements ends items = .ok (nodes, rest)) :
    ends rest = true := by
  fun_induction readElements ends items generalizing nodes rest with
  | case1 => simp_all
  | case2 => simp_all
  | case3 => simp_all
  | case4 items _ node after first more last later induction =>
      simp only [Except.ok.injEq, Prod.mk.injEq] at read
      rw [← read.2]
      exact induction later

namespace Place

theorem read_group_eq (items : List Item) :
    group.read items = (readElements endsInGroup items).bind fun found =>
      if startsWithMark '|' found.2 then
        (group.read (found.2.drop 1)).map fun later =>
          (Node.alternative found.1 :: later.1, later.2)
      else .ok ([Node.alternative found.1], found.2) := by
  rw [read, readChoice]
  split
  · case h_1 fault elements => rw [elements]; rfl
  · case h_2 nodes elements => rw [elements]; rfl
  · case h_3 nodes item rest elements =>
      have bar : startsWithMark '|' (item :: rest) = true := by
        simpa [endsInGroup] using ends_of_readElements elements
      rw [elements]
      simp only [Except.bind, bar, if_true, List.drop_succ_cons, List.drop_zero, read]
      cases readChoice rest <;> rfl

theorem readAlternative_eq (items : List Item) :
    readAlternative items = (readElements endsInRule items).bind fun found =>
      (rule.skipTail found.2).map fun rest => (Node.alternative found.1, rest) := by
  rw [readAlternative]
  cases readElements endsInRule items with
  | error => rfl
  | ok found =>
      simp only [Except.bind, skipTail]
      cases skipCommandList found.2 with
      | error => rfl
      | ok middle =>
          dsimp only
          cases skipAlternativeLabel middle <;> rfl

theorem read_rule_eq (items : List Item) :
    rule.read items = (readAlternative items).bind fun found =>
      if startsWithMark '|' found.2 then
        (rule.read (found.2.drop 1)).map fun later => (found.1 :: later.1, later.2)
      else .ok ([found.1], found.2) := by
  rw [read, readAlternatives]
  split
  · case h_1 fault first => rw [first]; rfl
  · case h_2 node rest first =>
      rw [first]
      simp only [Except.bind, read]
      split
      · cases readAlternatives (rest.drop 1) <;> rfl
      · rfl

/-- The elements of the first alternative, what may follow them, and the alternatives behind a
bar. -/
theorem read_eq (place : Place) (items : List Item) :
    place.read items = (readElements place.ends items).bind fun found =>
      (place.skipTail found.2).bind fun rest =>
        if startsWithMark '|' rest then
          (place.read (rest.drop 1)).map fun later =>
            (Node.alternative found.1 :: later.1, later.2)
        else .ok ([Node.alternative found.1], rest) := by
  cases place with
  | group => exact read_group_eq items
  | rule =>
      rw [read_rule_eq, readAlternative_eq]
      simp only [ends]
      cases readElements endsInRule items with
      | error => rfl
      | ok found =>
          simp only [Except.bind]
          cases rule.skipTail found.2 <;> rfl

theorem readChoice_eq_of_read_eq {items others : List Item}
    (same : group.read items = group.read others) : readChoice items = readChoice others := by
  rw [read, read] at same
  cases first : readChoice items <;> cases second : readChoice others <;>
    simp_all [Except.map]

/-- One element is the first of the first alternative. -/
theorem read_of_readElement (place : Place) {items rest : List Item} {node : Node}
    (continues : place.ends items = false) (read : readElement items = .ok (node, rest)) :
    place.read items =
      (place.read rest).map fun found => (addToFirst node found.1, found.2) := by
  rw [read_eq, read_eq, readElements_eq_map continues read]
  cases readElements place.ends rest with
  | error => rfl
  | ok elements =>
      simp only [Except.map, Except.bind]
      cases place.skipTail elements.2 with
      | error => rfl
      | ok after =>
          simp only
          split
          · cases place.read (after.drop 1) <;> rfl
          · rfl

/-- A bar ends an alternative. -/
theorem read_of_bar (place : Place) {items rest : List Item}
    (stops : place.ends items = true) (skip : place.skipTail items = .ok rest)
    (bar : startsWithMark '|' rest = true) :
    place.read items =
      (place.read (rest.drop 1)).map fun found => (Node.alternative [] :: found.1, found.2) := by
  have elements : readElements place.ends items = .ok ([], items) := by
    rw [readElements, stops]
    rfl
  rw [read_eq, elements]
  simp only [Except.bind, skip, bar, if_true]

/-- Reading a row of alternatives from some tokens comes to the tokens `front`, where an element may
begin. -/
inductive Reaches (place : Place) (front : List Item) : List Item → Prop where
  /-- Nothing is read. -/
  | here : Reaches place front front
  /-- An element is read. -/
  | element {items rest : List Item} {node : Node} (continues : place.ends items = false)
      (read : readElement items = .ok (node, rest)) (later : Reaches place front rest) :
      Reaches place front items
  /-- The end of an alternative and a bar are read. -/
  | bar {items rest : List Item} (stops : place.ends items = true)
      (skip : place.skipTail items = .ok rest) (bar : startsWithMark '|' rest = true)
      (later : Reaches place front (rest.drop 1)) : Reaches place front items

theorem Reaches.suffix {place : Place} {front items : List Item}
    (reaches : place.Reaches front items) : front <:+ items := by
  induction reaches with
  | here => exact List.suffix_refl _
  | element _ read _ induction => exact induction.trans (shortens_of_readElement read).suffix
  | bar _ skip _ _ induction =>
      exact (induction.trans (List.drop_suffix 1 _)).trans (suffix_of_skipTail skip)

/-- Where an element begins, other tokens that read the same may begin. -/
theorem read_append_congr {place : Place} {front other : List Item}
    (plain : startsPlainly front = true) (plain_other : startsPlainly other = true)
    (same : place.read other = place.read front) {before : List Item}
    (reaches : place.Reaches front (before ++ front)) :
    place.read (before ++ other) = place.read (before ++ front) := by
  generalize whole : before ++ front = items at reaches
  induction reaches generalizing before with
  | here =>
      obtain rfl : before = [] := by simpa using whole
      exact same
  | @element items rest node continues read later induction =>
      subst whole
      obtain ⟨middle, rfl⟩ := later.suffix
      have alone := (readElement_append_iff plain).mp read
      have continues_other : place.ends (before ++ other) = false := by
        rw [ends_append place plain] at continues
        rw [ends_append place plain_other, continues]
      rw [place.read_of_readElement continues read,
        place.read_of_readElement continues_other ((readElement_append_iff plain_other).mpr alone),
        induction rfl]
  | @bar items rest stops skip bar later induction =>
      subst whole
      obtain ⟨middle, rfl⟩ := later.suffix.trans (List.drop_suffix 1 rest)
      have some : middle ≠ [] := by
        rintro rfl
        rw [List.nil_append, startsWithMark_of_startsPlainly plain] at bar
        simp at bar
      have alone := (place.skipTail_append_iff plain some).mp skip
      have stops_other : place.ends (before ++ other) = true := by
        rw [ends_append place plain] at stops
        rw [ends_append place plain_other, stops]
      have bar_alone : startsWithMark '|' middle = true := by
        rwa [startsWithMark_append plain] at bar
      have bar_other : startsWithMark '|' (middle ++ other) = true := by
        rw [startsWithMark_append plain_other, bar_alone]
      rw [place.read_of_bar stops skip bar,
        place.read_of_bar stops_other ((place.skipTail_append_iff plain_other some).mpr alone)
          bar_other, drop_one_append bar_alone other,
        induction (drop_one_append bar_alone front).symm]

end Place

/-! ### Labels in rules -/

/-- The second row of tokens is the first with a label in front of one of its elements, which has
no label so far and is no negation. -/
inductive Labelled (label : List TokenTree) : Place → List TokenTree → List TokenTree → Prop where
  /-- The element is one of the alternatives themselves. -/
  | element {place : Place} {before front : List TokenTree} {node : Node} {rest : List Item}
      (reaches : place.Reaches (TokenTree.items front) (TokenTree.items (before ++ front)))
      (read : readElement (TokenTree.items front) = .ok (node, rest))
      (bare : Unlabelled (TokenTree.items front))
      (positive : startsWithMark '~' (TokenTree.items front) = false) :
      Labelled label place (before ++ front) (before ++ (label ++ front))
  /-- The element stands in a group. -/
  | inside {place : Place} {content labelled : List TokenTree} (before after : List TokenTree)
      (inner : Labelled label .group content labelled) :
      Labelled label place (before ++ .group .parenthesis content :: after)
        (before ++ .group .parenthesis labelled :: after)

/-- A row of alternatives reads the same with a label more. -/
theorem Labelled.read_eq {label : List TokenTree} (labels : IsLabel label) {place : Place}
    {trees labelled : List TokenTree} (more : Labelled label place trees labelled) :
    place.read (TokenTree.items labelled) = place.read (TokenTree.items trees) := by
  induction more with
  | @element place before front node rest reaches read bare positive =>
      have plain := startsPlainly_of_readElement bare positive read
      have plain_label := labels.startsPlainly (TokenTree.items front)
      simp only [TokenTree.items_append] at reaches ⊢
      refine Place.read_append_congr plain plain_label ?_ reaches
      rw [place.read_of_readElement (place.ends_of_startsPlainly plain) read,
        place.read_of_readElement (place.ends_of_startsPlainly plain_label)
          ((readElement_label labels bare positive).trans read)]
  | @inside place content labelled before after inner induction =>
      have same : readChoice (TokenTree.items labelled) = readChoice (TokenTree.items content) :=
        Place.readChoice_eq_of_read_eq induction
      simp only [TokenTree.items_append, TokenTree.items, TokenTree.item, same]

/-- What stands in front of the alternatives of a rule. -/
inductive IsHead : List TokenTree → Prop where
  /-- A name and a colon. -/
  | rule (name : String) (line : Nat) (joint : Bool) :
      IsHead [word line name, .leaf (.mark ':' joint)]
  /-- The word of a fragment, a name and a colon. -/
  | fragment (first : Nat) (name : String) (line : Nat) (joint : Bool) :
      IsHead [word first "fragment", word line name, .leaf (.mark ':' joint)]

theorem Labelled.readRule_eq {label body labelled : List TokenTree} (labels : IsLabel label)
    (more : Labelled label .rule body labelled) {head : List TokenTree} (heads : IsHead head)
    (kind : RuleKind) (mode : String) :
    readRule kind mode (TokenTree.items (head ++ labelled)) =
      readRule kind mode (TokenTree.items (head ++ body)) := by
  have same : readAlternatives (TokenTree.items labelled) =
      readAlternatives (TokenTree.items body) := more.read_eq labels
  cases heads <;>
    simp [TokenTree.items, readRule, startsWithFragment, startsWithIdentifier, startsWithWord,
      readIdentifier, readMark, startsWithMark, same, TokenTree.item, word]

/-- **A label says nothing.**  Tokens that are an element without a label are the same element with
one in front, if and only if they are no negation; the label of a negation is refused before the sign
and reads as nothing behind it.  So a rule reads the same with a label more, however deep in its
groups. -/
theorem labels_read_as_nothing {label : List TokenTree} (labels : IsLabel label) :
    (∀ (front : List TokenTree) (node : Node), readElement (TokenTree.items front) = .ok (node, []) →
      Unlabelled (TokenTree.items front) →
        (readElement (TokenTree.items (label ++ front)) = .ok (node, []) ↔
          startsWithMark '~' (TokenTree.items front) = false)) ∧
    (∀ front : List TokenTree, startsWithMark '~' (TokenTree.items front) = true →
      readElement (TokenTree.items (label ++ front)) = .error (.missing .element false)) ∧
    (∀ (operand : List TokenTree) (joint : Bool), Unlabelled (TokenTree.items operand) →
      readElement (TokenTree.items (.leaf (.mark '~' joint) :: (label ++ operand))) =
        readElement (TokenTree.items (.leaf (.mark '~' joint) :: operand))) ∧
    ∀ (kind : RuleKind) (mode : String) (head body labelled : List TokenTree), IsHead head →
      Labelled label .rule body labelled →
        readRule kind mode (TokenTree.items (head ++ labelled)) =
          readRule kind mode (TokenTree.items (head ++ body)) := by
  have refused (front : List TokenTree) (negative : startsWithMark '~' (TokenTree.items front) = true) :
      readElement (TokenTree.items (label ++ front)) = .error (.missing .element false) := by
    rw [TokenTree.items_append]
    exact readElement_label_before_sign labels negative
  refine ⟨fun front node read bare => ⟨fun accepted => ?_, fun positive => ?_⟩, refused,
    fun operand joint bare => ?_, fun kind mode head body labelled heads more =>
      more.readRule_eq labels heads kind mode⟩
  · rw [Bool.eq_false_iff]
    intro negative
    rw [refused front negative] at accepted
    cases accepted
  · rw [TokenTree.items_append, readElement_label labels bare positive, read]
  · simp only [TokenTree.items, TokenTree.items_append]
    exact readElement_label_behind_sign labels bare joint

/-- The element `b*`. -/
theorem readElement_repeated :
    readElement (TokenTree.items [word 1 "b", sign '*']) =
      .ok (.mk (.star true) [operand (Node.reference "b")], []) := by
  simp [TokenTree.items, readElement, readRange, readAtom, skipLabel, readBareAtom, quantify,
    startsWithMark, startsWithPair]

/-- The label `xs+=`. -/
def listLabel : List TokenTree :=
  [word 1 "xs", .leaf (.mark '+' true), sign '=']

/-- The alternatives `a` and `b*` of a group, the second with a label. -/
theorem labelled_nestedLabel :
    Labelled listLabel .rule
      [.group .parenthesis [word 1 "a", sign '|', word 1 "b", sign '*'], sign ';']
      [.group .parenthesis ([word 1 "a", sign '|'] ++ (listLabel ++ [word 1 "b", sign '*'])),
        sign ';'] := by
  have first : readElement (TokenTree.items [word 1 "a", sign '|', word 1 "b", sign '*']) =
      .ok (Node.reference "a", TokenTree.items [sign '|', word 1 "b", sign '*']) := by
    simp [TokenTree.items, readElement, readRange, readAtom, skipLabel, readBareAtom, quantify,
      startsWithMark, startsWithPair]
  have reaches : Place.group.Reaches (TokenTree.items [word 1 "b", sign '*'])
      (TokenTree.items ([word 1 "a", sign '|'] ++ [word 1 "b", sign '*'])) :=
    .element rfl first (.bar rfl rfl rfl .here)
  exact .inside [] [sign ';'] (.element reaches readElement_repeated rfl rfl)

/-- The rule `r : (a | b*) ;` and its element `b*`, with and without a label. -/
theorem labels_read_as_nothing_nestedLabel :
    readElement (TokenTree.items (listLabel ++ [word 1 "b", sign '*'])) =
        .ok (.mk (.star true) [operand (Node.reference "b")], []) ∧
      readElement (TokenTree.items (sign '~' :: (listLabel ++ [word 1 "b"]))) =
        readElement (TokenTree.items [sign '~', word 1 "b"]) ∧
      readRule .parser defaultMode (TokenTree.items ([word 1 "r", sign ':'] ++
          [.group .parenthesis ([word 1 "a", sign '|'] ++ (listLabel ++ [word 1 "b", sign '*'])),
            sign ';'])) =
        readRule .parser defaultMode (TokenTree.items ([word 1 "r", sign ':'] ++
          [.group .parenthesis [word 1 "a", sign '|', word 1 "b", sign '*'], sign ';'])) := by
  obtain ⟨accepted, -, behind, rules⟩ := labels_read_as_nothing (.list "xs" 1 false)
  exact ⟨(accepted _ _ readElement_repeated rfl).mpr rfl, behind [word 1 "b"] false rfl,
    rules .parser defaultMode _ _ _ (.rule "r" 1 false) labelled_nestedLabel⟩

/-- The negation `~a` is an element, and with the label `x=` it is none. -/
theorem not_forall_readElement_label :
    ¬ ∀ (label front : List TokenTree) (node : Node), IsLabel label →
      readElement (TokenTree.items front) = .ok (node, []) → Unlabelled (TokenTree.items front) →
        readElement (TokenTree.items (label ++ front)) = .ok (node, []) := by
  intro all
  have read : readElement (TokenTree.items [sign '~', word 1 "a"]) =
      .ok (.mk .negation [negated (Node.reference "a")], []) := rfl
  have accepted := all [word 1 "x", sign '='] _ _ (.single "x" 1 false) read rfl
  have refused : readElement (TokenTree.items ([word 1 "x", sign '='] ++ [sign '~', word 1 "a"])) =
      .error (.missing .element false) := readElement_label_before_sign (.single "x" 1 false) rfl
  rw [refused] at accepted
  cases accepted

end Notation
end Rulebook
