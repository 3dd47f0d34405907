import Rulebook.Proofs.Listing.Framing
import Rulebook.Proofs.Listing.Ink

/-!
# Alternatives in the listing

The alternatives of one choice of a rule stand on lines of their own: that of the first node with other
than one child.  Every other choice between several alternatives stands in parentheses of its own, with
its bars between them.
-/

namespace Rulebook

namespace Node

/-- Does a body come to a node with other than one child, through groups and sequences of one child?
The address says where that node is. -/
inductive Forks : (body : Node) → (address : List Nat) → (fork : Node) → Prop where
  /-- The node itself. -/
  | here {node : Node} (several : node.children.length ≠ 1) : Forks node [] node
  /-- What the only child comes to. -/
  | single {kind : NodeKind} {only fork : Node} {address : List Nat}
      (passes : kind.Groups ∨ kind = .sequence) (below : Forks only address fork) :
      Forks (mk kind [only]) (0 :: address) fork

theorem Forks.at?_eq {body fork : Node} {address : List Nat} (forks : body.Forks address fork) :
    body.at? address = some fork := by
  induction forks with
  | here => rfl
  | @single kind only _ _ _ _ induction =>
      have listed : (mk kind [only]).children[0]? = some only := rfl
      rw [at?_cons listed, induction]

theorem Forks.several {body fork : Node} {address : List Nat} (forks : body.Forks address fork) :
    fork.children.length ≠ 1 := by
  induction forks with
  | here several => exact several
  | single _ _ induction => exact induction

/-- A body has at most one such node. -/
theorem Forks.unique {body fork other : Node} {address place : List Nat}
    (forks : body.Forks address fork) (also : body.Forks place other) :
    place = address ∧ other = fork := by
  induction forks generalizing place with
  | here several =>
      cases also with
      | here => exact ⟨rfl, rfl⟩
      | single => simp at several
  | single _ _ induction =>
      cases also with
      | here several => simp at several
      | single _ below =>
          obtain ⟨same, equal⟩ := induction below
          exact ⟨congrArg (0 :: ·) same, equal⟩

theorem passes_of_child {kind : NodeKind} {children : List Node} {child : Node}
    (complete : (mk kind children).HasOperands) (member : child ∈ children)
    (plain : kind.isOperator = false) : kind.Groups ∨ kind = .sequence := by
  have here := (hasOperands_mk.mp complete).1
  cases kind with
  | block | set | alternative => exact .inl (NodeKind.isGroup_iff.mp rfl)
  | sequence => exact .inr rfl
  | optional | plus | star | negation | range => simp [NodeKind.isOperator] at plain
  | terminal | ruleRef | charSet | predicate | placeholder =>
      obtain rfl := List.eq_nil_of_length_eq_zero (here 0 rfl)
      simp at member

/-- Of the nodes with other than one child, only that to which the body comes is the whole content of the
rule. -/
theorem sole_positionAt_iff {body part : Node} {address : List Nat} (complete : body.HasOperands)
    (found : body.at? address = some part) (several : part.children.length ≠ 1)
    (position : Position) : (body.positionAt position address).sole = true ↔
      position.sole = true ∧ body.Forks address part := by
  induction address generalizing body position with
  | nil =>
      obtain rfl := Option.some.inj found
      simp [positionAt, Forks.here several]
  | cons index address induction =>
      obtain ⟨child, listed, later⟩ := at?_cons_eq_some.mp found
      obtain ⟨kind, children⟩ := body
      have member : child ∈ children := List.mem_of_getElem? listed
      rw [positionAt_cons listed, induction ((hasOperands_mk.mp complete).2 child member) later]
      constructor
      · rintro ⟨sole, below⟩
        simp only [Position.below, kind_mk, children_mk, Bool.and_eq_true,
          Bool.not_eq_true'] at sole
        obtain ⟨⟨outer, few⟩, plain⟩ := sole
        have single : children.length = 1 :=
          Nat.le_antisymm (of_decide_eq_true few) (List.length_pos_of_mem member)
        obtain ⟨only, rfl⟩ := List.length_eq_one_iff.mp single
        obtain rfl : child = only := by simpa using member
        obtain rfl : index = 0 := by
          have bound := (List.getElem?_eq_some_iff.mp listed).1
          simpa using bound
        exact ⟨outer, .single (passes_of_child complete member plain) below⟩
      · rintro ⟨outer, forks⟩
        cases forks with
        | @single _ only _ _ passes below =>
            obtain rfl : only = child := by simpa using listed
            have plain : kind.isOperator = false := by
              rcases passes with groups | rfl
              · exact groups.isOperator_eq
              · rfl
            exact ⟨by simp [Position.below, outer, plain], below⟩

end Node

namespace Listing

/-! ### The signs of one choice -/

theorem count_intercalate {sign : Ink} {rows : List (List Ink)} (foreign : ∀ row ∈ rows, sign ∉ row) :
    ([sign].intercalate rows).count sign = rows.length - 1 := by
  induction rows with
  | nil => rfl
  | cons row rows induction =>
      rw [List.forall_mem_cons] at foreign
      have none := List.count_eq_zero.mpr foreign.1
      cases rows with
      | nil => simpa [List.intercalate] using none
      | cons next rows =>
          have split : [sign].intercalate (row :: next :: rows) =
              row ++ sign :: [sign].intercalate (next :: rows) := by
            simp [List.intercalate]
          rw [split, List.count_append, List.count_cons_self, none, induction foreign.2]
          simp

theorem mem_intercalate {sign ink : Ink} {rows : List (List Ink)}
    (member : ink ∈ [sign].intercalate rows) : ink = sign ∨ ∃ row ∈ rows, ink ∈ row := by
  have interleaves : Interleaves (· = sign) rows ([sign].intercalate rows) :=
    .intercalate (by simp) rows
  exact interleaves.of_mem member

/-- All signs of the choices at or below an address stand between the parentheses of the choice at the
address, and no others do. -/
def Encloses (address : List Nat) (ink : List Ink) : Prop :=
  ∃ front inner back, ink = front ++ .opening address :: inner ++ .closing address :: back ∧
    .opening address ∉ inner ∧ .closing address ∉ inner ∧
      (∀ sign ∈ inner, ∀ choice, sign.choice? = some choice → address <+: choice) ∧
        ∀ sign ∈ front ++ back, ∀ choice, sign.choice? = some choice → ¬ address <+: choice

section

variable {address : List Nat} {rows : List (List Ink)}
  (foreign : ∀ row ∈ rows, ∀ ink ∈ row, ink.choice? ≠ some address)

include foreign

theorem count_bar_intercalate (onLine other : Bool) :
    ([Ink.bar address other].intercalate rows).count (.bar address onLine) =
      if onLine = other then rows.length - 1 else 0 := by
  split
  · case isTrue same =>
      subst same
      exact count_intercalate fun row listed member => foreign row listed _ member rfl
  · case isFalse differs =>
      refine List.count_eq_zero.mpr fun member => ?_
      rcases mem_intercalate member with same | ⟨row, listed, inside⟩
      · exact differs (Ink.bar.inj same).2
      · exact foreign row listed _ inside rfl

/-- A choice has one bar less than alternatives, on lines unless it stands in parentheses. -/
theorem count_bar_choice (grouping onLine : Bool) :
    (Ink.choice address grouping rows).count (.bar address onLine) =
      if onLine = !grouping then rows.length - 1 else 0 := by
  unfold Ink.choice
  split
  · case isTrue grouped =>
      obtain ⟨rfl, -⟩ : grouping = true ∧ _ := by simpa using grouped
      rw [List.count_append, List.count_cons, count_bar_intercalate foreign]
      simp
  · case isFalse alone =>
      rw [count_bar_intercalate foreign]
      cases grouping with
      | false => simp
      | true =>
          have few : rows.length - 1 = 0 := by
            simp at alone
            omega
          simp [few]

end

/-! ### The signs of the choices of a body -/

section

variable {tip : NodeKind → Piece} {lineBreaks? : Option (List Nat)}

/-- The children of a node are written without signs of its own address. -/
theorem choice?_ne_of_mem_inkAll {node : Node} (complete : node.HasOperands) {position : Position}
    {address : List Nat} :
    ∀ row ∈ Node.inkAll tip lineBreaks? position address 0 node.children, ∀ ink ∈ row,
      ink.choice? ≠ some address := by
  obtain ⟨kind, children⟩ := node
  have operands := (Node.hasOperands_mk.mp complete).2
  intro row listed ink member own
  obtain ⟨index, found⟩ := List.mem_iff_getElem?.mp listed
  obtain ⟨child, place, rfl⟩ := exists_of_getElem?_inkAll tip lineBreaks? address found
  have below := isPrefix_of_mem_ink (operands child (List.mem_of_getElem? place)) member own
  have shorter := below.length_le
  rw [List.length_append, List.length_singleton] at shorter
  omega

theorem length_inkAll (position : Position) (address : List Nat) (start : Nat) (nodes : List Node) :
    (Node.inkAll tip lineBreaks? position address start nodes).length = nodes.length := by
  induction nodes generalizing start with
  | nil => rfl
  | cons node nodes induction => rw [Node.inkAll, List.length_cons, List.length_cons, induction]

theorem ink_choice {node : Node} (chooses : node.kind.isChoice = true) (outer : Position)
    (address : List Nat) : node.ink tip lineBreaks? outer address =
      Ink.choice address (node.needsGrouping && !outer.sole)
        (Node.inkAll tip lineBreaks? (outer.below node.kind node.children) address 0
          node.children) := by
  obtain ⟨kind, children⟩ := node
  cases kind with
  | block | set => rfl
  | _ => simp [NodeKind.isChoice] at chooses

theorem groups_of_isChoice {kind : NodeKind} (chooses : kind.isChoice = true) : kind.Groups := by
  cases kind with
  | block => exact .inl rfl
  | set => exact .inr (.inl rfl)
  | _ => simp [NodeKind.isChoice] at chooses

variable {body part : Node} {address : List Nat}

variable (tip lineBreaks?) in
/-- A choice has one bar less than alternatives, on lines if it is the whole content of the rule and
within lines otherwise. -/
theorem count_bar_ink (complete : body.HasOperands) (found : body.at? address = some part)
    (chooses : part.kind.isChoice = true) (outer : Position) (onLine : Bool) :
    (body.ink tip lineBreaks? outer []).count (.bar address onLine) =
      if onLine = (body.positionAt outer address).sole then part.children.length - 1 else 0 := by
  obtain ⟨front, back, whole, outside⟩ := exists_ink_around tip lineBreaks? [] complete found outer
  have around : ∀ ink ∈ front ++ back, ink ≠ .bar address onLine := by
    rintro ink member rfl
    exact outside _ member address rfl (List.nil_append address ▸ List.prefix_refl address)
  have none_front : front.count (.bar address onLine) = 0 :=
    List.count_eq_zero.mpr fun member => around _ (List.mem_append_left back member) rfl
  have none_back : back.count (.bar address onLine) = 0 :=
    List.count_eq_zero.mpr fun member => around _ (List.mem_append_right front member) rfl
  rw [whole, List.count_append, List.count_append, none_front, none_back, List.nil_append,
    ink_choice chooses, count_bar_choice (choice?_ne_of_mem_inkAll (complete.at? found)),
    length_inkAll]
  by_cases several : 1 < part.children.length
  · have needs := Node.needsGrouping_of_several (groups_of_isChoice chooses) several
    simp [needs]
  · have few : part.children.length - 1 = 0 := by omega
    simp [few]

/-- A choice between several alternatives that is not the whole content of the rule stands in parentheses
of its own. -/
theorem encloses_ink (complete : body.HasOperands) (found : body.at? address = some part)
    (chooses : part.kind.isChoice = true) (several : 1 < part.children.length) {outer : Position}
    (beside : (body.positionAt outer address).sole = false) :
    Encloses address (body.ink tip lineBreaks? outer []) := by
  obtain ⟨front, back, whole, outside⟩ := exists_ink_around tip lineBreaks? [] complete found outer
  have inside := fun ink => @isPrefix_of_mem_ink tip lineBreaks? address part (complete.at? found)
    (body.positionAt outer address) ink
  have needs := Node.needsGrouping_of_several (groups_of_isChoice chooses) several
  have foreign := @choice?_ne_of_mem_inkAll tip lineBreaks? part (complete.at? found)
    ((body.positionAt outer address).below part.kind part.children) address
  generalize rows_eq : Node.inkAll tip lineBreaks?
    ((body.positionAt outer address).below part.kind part.children) address 0 part.children = rows
    at foreign
  have shape : part.ink tip lineBreaks? (body.positionAt outer address) address =
      .opening address :: [Ink.bar address false].intercalate rows ++ [.closing address] := by
    rw [ink_choice chooses, needs, beside, rows_eq, Ink.choice, if_pos]
    rw [← rows_eq, length_inkAll]
    simpa using several
  rw [shape] at inside
  have other {sign : Ink} (own : sign.choice? = some address) (no_bar : sign ≠ .bar address false) :
      sign ∉ [Ink.bar address false].intercalate rows := by
    intro member
    rcases mem_intercalate member with same | ⟨row, listed, within⟩
    · exact no_bar same
    · exact foreign row listed _ within own
  refine ⟨front, [Ink.bar address false].intercalate rows, back, ?_, other rfl (by simp),
    other rfl (by simp), fun sign member choice => inside sign (by simp [member]), ?_⟩
  · rw [whole, List.nil_append, shape]
    simp
  · simpa using outside

/-- A bar belongs to a choice between several alternatives, and one on a line to the node to which the
whole body comes. -/
theorem exists_choice_of_bar (complete : body.HasOperands) {onLine : Bool}
    (member : .bar address onLine ∈ body.ink tip lineBreaks? Position.body []) :
    ∃ choice, body.at? address = some choice ∧ choice.kind.isChoice = true ∧
      1 < choice.children.length ∧ (onLine = true → body.Forks address choice) := by
  obtain ⟨below, choice, found, same, chooses⟩ := exists_at?_of_mem_ink complete member
  obtain rfl : address = below := by simpa using same
  have counted := count_bar_ink tip lineBreaks? complete found chooses Position.body onLine
  have positive := List.count_pos_iff.mpr member
  rw [counted] at positive
  split at positive
  · case isTrue settled =>
      have several : 1 < choice.children.length := by omega
      refine ⟨choice, found, chooses, several, fun line => ?_⟩
      rw [line] at settled
      exact ((Node.sole_positionAt_iff complete found (by omega) _).mp settled.symm).2
  · simp at positive

end

/-- Does a bar stand at the start of a line? -/
def Ink.isLineBar : Ink → Bool
  | bar _ onLine => onLine
  | _ => false

theorem Ink.isLineBar_iff {ink : Ink} : ink.isLineBar = true ↔ ∃ address, ink = .bar address true := by
  cases ink <;> simp [isLineBar]

section

variable {tip : NodeKind → Piece} {lineBreaks? : Option (List Nat)} {body : Node}

/-- The bars on lines are those of the node to which the body comes, if it is a choice. -/
theorem countP_isLineBar_of_forks (complete : body.HasOperands) {fork : Node} {address : List Nat}
    (forks : body.Forks address fork) :
    (body.ink tip lineBreaks? Position.body []).countP Ink.isLineBar =
      if fork.kind.isChoice then fork.children.length - 1 else 0 := by
  have only : ∀ ink ∈ body.ink tip lineBreaks? Position.body [], ink.isLineBar = true →
      ink = .bar address true ∧ fork.kind.isChoice = true := by
    intro ink member line
    obtain ⟨place, rfl⟩ := Ink.isLineBar_iff.mp line
    obtain ⟨choice, -, chooses, -, lines⟩ := exists_choice_of_bar complete member
    obtain ⟨rfl, rfl⟩ := forks.unique (lines rfl)
    exact ⟨rfl, chooses⟩
  split
  · case isTrue chooses =>
      have sole : (body.positionAt Position.body address).sole = true :=
        (Node.sole_positionAt_iff complete forks.at?_eq forks.several _).mpr ⟨rfl, forks⟩
      have counted := count_bar_ink tip lineBreaks? complete forks.at?_eq chooses Position.body true
      rw [sole, if_pos rfl] at counted
      rw [← counted, List.count]
      refine List.countP_congr fun ink member => ⟨fun line => ?_, fun same => ?_⟩
      · simpa using (only ink member line).1
      · rw [eq_of_beq same]
        rfl
  · case isFalse other =>
      exact List.countP_eq_zero.mpr fun ink member line => other (only ink member line).2

/-- Without such a node there are no bars on lines. -/
theorem countP_isLineBar_of_not_forks (complete : body.HasOperands)
    (none : ∀ address fork, ¬ body.Forks address fork) :
    (body.ink tip lineBreaks? Position.body []).countP Ink.isLineBar = 0 := by
  refine List.countP_eq_zero.mpr fun ink member line => ?_
  obtain ⟨place, rfl⟩ := Ink.isLineBar_iff.mp line
  obtain ⟨choice, -, -, -, lines⟩ := exists_choice_of_bar complete member
  exact none place choice (lines rfl)

end

/-! ### Signs in a text with its lines -/

/-- What the layout makes of ink: a break mark becomes a blank or the start of a continued line, and all
other ink stays. -/
inductive Ink.Settles : Ink → Ink → Prop where
  /-- The ink is no break mark. -/
  | kept {ink : Ink} (no_soft : ink ≠ shown softBreak) (no_hard : ink ≠ shown hardBreak) :
      Settles ink ink
  /-- The line goes on. -/
  | blank : Settles (shown softBreak) (shown ' ')
  /-- The line is broken where it may be. -/
  | line : Settles (shown softBreak) wrap
  /-- The line is broken where it must be. -/
  | forced : Settles (shown hardBreak) wrap

namespace Ink

theorem Settles.choice?_eq {ink settled : Ink} (settles : ink.Settles settled) :
    settled.choice? = ink.choice? := by
  cases settles <;> rfl

theorem Settles.eq_of_sign {ink settled : Ink} (settles : ink.Settles settled)
    (sign : ink.choice? ≠ none) : settled = ink := by
  cases settles with
  | kept => rfl
  | blank | line | forced => exact absurd rfl sign

/-- Ink that is no break mark is written without break marks. -/
theorem ne_breaks_of_mem_text {ink : Ink} (no_soft : ink ≠ shown softBreak)
    (no_hard : ink ≠ shown hardBreak) :
    ∀ character ∈ ink.text, character ≠ softBreak ∧ character ≠ hardBreak := by
  cases ink with
  | shown character =>
      intro other member
      obtain rfl : other = character := by simpa [text] using member
      exact ⟨fun soft => no_soft (congrArg shown soft), fun hard => no_hard (congrArg shown hard)⟩
  | wrap | opening | closing => simp only [text]; decide
  | bar choice onLine => cases onLine <;> simp only [text] <;> decide

end Ink

/-- The text that the layout makes of ink is written with that ink, settled. -/
theorem exists_settled {ink : List Ink} {written : List Char}
    (resolved : Resolves (Ink.textOf ink) written) :
    ∃ settled, List.Forall₂ Ink.Settles ink settled ∧ Ink.textOf settled = written := by
  induction ink generalizing written with
  | nil =>
      cases resolved with
      | nil => exact ⟨[], .nil, rfl⟩
  | cons first rest induction =>
      rw [Ink.textOf_cons] at resolved
      by_cases soft : first = .shown softBreak
      · subst soft
        cases resolved with
        | blank later =>
            obtain ⟨settled, each, rfl⟩ := induction later
            exact ⟨.shown ' ' :: settled, .cons .blank each, rfl⟩
        | line later =>
            obtain ⟨settled, each, rfl⟩ := induction later
            exact ⟨.wrap :: settled, .cons .line each, rfl⟩
        | kept no_soft => exact absurd rfl no_soft
      · by_cases hard : first = .shown hardBreak
        · subst hard
          cases resolved with
          | forced later =>
              obtain ⟨settled, each, rfl⟩ := induction later
              exact ⟨.wrap :: settled, .cons .forced each, rfl⟩
          | kept _ no_hard => exact absurd rfl no_hard
        · obtain ⟨front, back, rfl, here, later⟩ := resolved.of_append
          obtain ⟨settled, each, rfl⟩ := induction later
          refine ⟨first :: settled, .cons (.kept soft hard) each, ?_⟩
          rw [Ink.textOf_cons, here.eq_of_plain (Ink.ne_breaks_of_mem_text soft hard)]

section

variable {ink settled : List Ink} (settles : List.Forall₂ Ink.Settles ink settled)

include settles

theorem countP_settled {counts : Ink → Bool}
    (signs : ∀ {first second : Ink}, first.Settles second → counts second = counts first) :
    settled.countP counts = ink.countP counts := by
  induction settles with
  | nil => rfl
  | cons first _ induction => rw [List.countP_cons, List.countP_cons, signs first, induction]

theorem count_bar_settled (address : List Nat) (onLine : Bool) :
    settled.count (.bar address onLine) = ink.count (.bar address onLine) :=
  countP_settled settles fun first => by cases first <;> rfl

theorem countP_isLineBar_settled : settled.countP Ink.isLineBar = ink.countP Ink.isLineBar :=
  countP_settled settles fun first => by cases first <;> rfl

theorem exists_of_mem_settled {sign : Ink} (member : sign ∈ settled) :
    ∃ origin ∈ ink, origin.Settles sign := by
  induction settles with
  | nil => simp at member
  | cons first _ induction =>
      rcases List.mem_cons.mp member with rfl | later
      · exact ⟨_, List.mem_cons_self, first⟩
      · obtain ⟨origin, listed, same⟩ := induction later
        exact ⟨origin, List.mem_cons_of_mem _ listed, same⟩

end

theorem exists_of_settles_append {first second settled : List Ink}
    (settles : List.Forall₂ Ink.Settles (first ++ second) settled) :
    ∃ front back, settled = front ++ back ∧ List.Forall₂ Ink.Settles first front ∧
      List.Forall₂ Ink.Settles second back := by
  induction first generalizing settled with
  | nil => exact ⟨[], settled, rfl, .nil, settles⟩
  | cons ink rest induction =>
      obtain ⟨other, later, here, behind, rfl⟩ := List.forall₂_cons_left_iff.mp settles
      obtain ⟨front, back, rfl, before, after⟩ := induction behind
      exact ⟨other :: front, back, rfl, .cons here before, after⟩

/-- The layout keeps what stands between the parentheses of a choice. -/
theorem Encloses.settled {address : List Nat} {ink settled : List Ink}
    (encloses : Encloses address ink) (settles : List.Forall₂ Ink.Settles ink settled) :
    Encloses address settled := by
  obtain ⟨front, inner, back, rfl, no_opening, no_closing, inside, outside⟩ := encloses
  obtain ⟨start, rest, rfl, settles_start, settles_rest⟩ := exists_of_settles_append settles
  obtain ⟨before, middle, rfl, settles_before, settles_middle⟩ :=
    exists_of_settles_append settles_start
  obtain ⟨_, within, opened, settles_within, rfl⟩ := List.forall₂_cons_left_iff.mp settles_middle
  obtain ⟨_, after, closed, settles_after, rfl⟩ := List.forall₂_cons_left_iff.mp settles_rest
  rw [opened.eq_of_sign (by simp [Ink.choice?]), closed.eq_of_sign (by simp [Ink.choice?])]
  have absent {sign : Ink} (own : sign.choice? = some address) (none : sign ∉ inner) :
      sign ∉ within := by
    intro member
    obtain ⟨origin, listed, same⟩ := exists_of_mem_settled settles_within member
    have known : origin.choice? ≠ Option.none := by
      rw [← same.choice?_eq, own]
      simp
    exact none (same.eq_of_sign known ▸ listed)
  refine ⟨before, within, after, rfl, absent rfl no_opening, absent rfl no_closing, ?_, ?_⟩
  · intro sign member choice belongs
    obtain ⟨origin, listed, same⟩ := exists_of_mem_settled settles_within member
    exact inside origin listed choice (same.choice?_eq ▸ belongs)
  · intro sign member choice belongs
    obtain ⟨origin, listed, same⟩ :=
      exists_of_mem_settled (List.rel_append settles_before settles_after) member
    exact outside origin listed choice (same.choice?_eq ▸ belongs)

/-! ### Lines that begin with a bar -/

/-- The lines of a text that begin with a bar and a blank. -/
def barLines (text : Piece) : Nat :=
  let split := Text.splitAtLineFeeds text
  (split.1 :: split.2).countP ['|', ' '].isPrefixOf

theorem inLines_cons (first line : List Char) (more : List (List Char)) :
    inLines first (line :: more) = first ++ '\n' :: inLines line more := by
  simp [inLines]

theorem splitAtLineFeeds_append {front : List Char} (no_line_end : '\n' ∉ front)
    (rest : List Char) : Text.splitAtLineFeeds (front ++ rest) =
      (front ++ (Text.splitAtLineFeeds rest).1, (Text.splitAtLineFeeds rest).2) := by
  induction front with
  | nil => rfl
  | cons character front induction =>
      rw [List.mem_cons, not_or] at no_line_end
      have same := induction no_line_end.2
      simp only [Text.splitAtLineFeeds, List.cons_append, List.foldr_cons] at same ⊢
      rw [same, if_neg (Ne.symm no_line_end.1)]

theorem splitAtLineFeeds_inLines {first : List Char} {more : List (List Char)}
    (whole : '\n' ∉ first) (each : ∀ line ∈ more, '\n' ∉ line) :
    Text.splitAtLineFeeds (inLines first more) = (first, more) := by
  induction more generalizing first with
  | nil =>
      rw [inLines, splitAtLineFeeds_append whole]
      simp [Text.splitAtLineFeeds]
  | cons line more induction =>
      rw [List.forall_mem_cons] at each
      have later := induction each.1 each.2
      rw [inLines_cons, splitAtLineFeeds_append whole]
      simp only [Text.splitAtLineFeeds, List.foldr_cons] at later ⊢
      rw [later]
      simp

theorem barLines_inLines {first : List Char} {more : List (List Char)}
    (whole : '\n' ∉ first) (each : ∀ line ∈ more, '\n' ∉ line) :
    barLines (inLines first more) = (first :: more).countP ['|', ' '].isPrefixOf := by
  rw [barLines, splitAtLineFeeds_inLines whole each]

/-- What ink starts lines with, if it starts one. -/
theorem Ink.text_cases {ink : Ink} (unbroken : ink ≠ shown '\n') :
    '\n' ∉ ink.text ∧ ink.isLineBar = false ∨
      ∃ opening, ink.text = '\n' :: opening ∧ '\n' ∉ opening ∧
        ∀ rest, ['|', ' '].isPrefixOf (opening ++ rest) = ink.isLineBar := by
  cases ink with
  | shown character => exact .inl ⟨by simpa [text, eq_comm] using unbroken, rfl⟩
  | wrap => exact .inr ⟨continuationIndent, rfl, by decide, fun _ => rfl⟩
  | opening | closing => exact .inl ⟨by simp [text], rfl⟩
  | bar choice onLine =>
      cases onLine with
      | false => exact .inl ⟨by simp [text], rfl⟩
      | true => exact .inr ⟨['|', ' '], rfl, by decide, fun _ => by simp [isLineBar]⟩

/-- The text that is written with ink has a line with a bar in front for each bar on a line. -/
theorem exists_inLines_textOf {ink : List Ink} (unbroken : .shown '\n' ∉ ink) :
    ∃ first more, Ink.textOf ink = inLines first more ∧ '\n' ∉ first ∧
      (∀ line ∈ more, '\n' ∉ line) ∧
        more.countP ['|', ' '].isPrefixOf = ink.countP Ink.isLineBar := by
  induction ink with
  | nil => exact ⟨[], [], rfl, by simp, by simp, rfl⟩
  | cons sign rest induction =>
      rw [List.mem_cons, not_or] at unbroken
      obtain ⟨first, more, lines, whole, each, counted⟩ := induction unbroken.2
      rw [Ink.textOf_cons, lines, List.countP_cons, ← counted]
      rcases Ink.text_cases (Ne.symm unbroken.1) with
        ⟨no_line_end, no_bar⟩ | ⟨opening, text, no_line_end, begins⟩
      · refine ⟨sign.text ++ first, more, (List.append_assoc ..).symm, ?_, each, by simp [no_bar]⟩
        exact fun member => (List.mem_append.mp member).elim no_line_end whole
      · refine ⟨[], (opening ++ first) :: more, ?_, by simp, List.forall_mem_cons.mpr ⟨?_, each⟩, ?_⟩
        · rw [text, inLines_cons]
          simp [inLines]
        · exact fun member => (List.mem_append.mp member).elim no_line_end whole
        · rw [List.countP_cons, begins]

/-! ### Paragraphs -/

section

variable {grammar : Grammar} {settings : Settings} {rule : Rule}

/-- The ink of the body of a rule, with its break marks. -/
def bodyInk (grammar : Grammar) (settings : Settings) (rule : Rule) : List Ink :=
  rule.body.ink (tipText grammar settings) (settings.breaksOf? rule.name) Position.body []

/-- The paragraph of a rule lays out the text of its ink. -/
theorem paragraphOf_eq (complete : rule.body.HasOperands) :
    paragraphOf grammar settings rule = heading rule ++ ['\n', ':', ' '] ++
      layout settings.textColumnBudget 2 (Ink.textOf (bodyInk grammar settings rule)) ++
        ['\n', ';', '\n', '\n'] := by
  have written : WritesInk grammar settings rule.body := writesInk complete
  obtain ⟨after, run, -⟩ :=
    written Position.body [] { lineBreaks? := settings.breaksOf? rule.name }
  have body := @Rule.run_render_of_ok _ _ (renderer grammar settings) rule {} _ _ run
  rw [paragraphOf, body, ← lexerParagraph_paragraph]
  simp only [renderer, List.flatten_cons, List.flatten_nil, List.append_nil]
  rfl

theorem isPrefixOf_heading (named : Notation.IsIdentifier rule.name) :
    ['|', ' '].isPrefixOf (heading rule) = false := by
  unfold heading
  split
  · rfl
  · have letters := named.isNameCharacter
    cases name : rule.name.toList with
    | nil => rfl
    | cons initial rest =>
        have legal := letters initial (by simp [name])
        have other : initial ≠ '|' := by
          rintro rfl
          exact absurd legal (by decide +kernel)
        simp [List.isPrefixOf, Ne.symm other]

/-- The lines with a bar in front are the bars on lines. -/
theorem barLines_paragraph (named : Notation.IsIdentifier rule.name) {ink : List Ink}
    (unbroken : .shown '\n' ∉ ink) :
    barLines (heading rule ++ ['\n', ':', ' '] ++ Ink.textOf ink ++ ['\n', ';', '\n', '\n']) =
      ink.countP Ink.isLineBar := by
  obtain ⟨first, more, lines, whole, each, counted⟩ := exists_inLines_textOf unbroken
  have split : heading rule ++ ['\n', ':', ' '] ++ inLines first more ++ ['\n', ';', '\n', '\n'] =
      inLines (heading rule) (([':', ' '] ++ first) :: more ++ [[';'], [], []]) := by
    simp [inLines]
  rw [lines, split, barLines_inLines (lineEnd_not_mem_heading named)]
  · simp [isPrefixOf_heading named, ← counted, List.isPrefixOf]
  · intro line member
    simp only [List.mem_append, List.mem_cons, List.not_mem_nil, or_false] at member
    rcases member with (rfl | inside) | rfl | rfl | rfl
    · simpa using whole
    · exact each line inside
    all_goals decide

theorem isLeaf_of_mem_tipText {tip : NodeKind} {character : Char}
    (member : character ∈ tipText grammar settings tip) : tip.isLeaf = true := by
  cases tip with
  | terminal | ruleRef | charSet | predicate | placeholder => rfl
  | _ => simp [tipText] at member

/-- No line of a body is broken but at a bar or by the layout, if no spelling holds a line end. -/
theorem lineEnd_not_mem_bodyInk (complete : rule.body.HasOperands)
    (readable : ∀ tip ∈ rule.body.tips, Notation.IsReadable tip)
    (plain : ∀ name spelling, .terminal (.token name) ∈ rule.body.tips →
      grammar.inlineSpelling? settings name = some spelling → '\n' ∉ spelling.toList) :
    .shown '\n' ∉ bodyInk grammar settings rule := by
  intro member
  obtain ⟨below, part, found, belongs⟩ := exists_at?_of_mem_ink complete member
  rcases belongs with inside | sign | soft | hard
  · have tip : part.kind ∈ rule.body.tips :=
      List.mem_filter.mpr ⟨List.mem_map_of_mem (Node.mem_preorder_of_at? found),
        isLeaf_of_mem_tipText inside⟩
    rcases isControl_of_mem_tipText (readable _ tip) inside with
      printable | ⟨name, spelling, same, shown, held⟩
    · exact absurd printable (by decide)
    · exact plain name spelling (same ▸ tip) shown held
  · exact absurd sign (by decide)
  · exact absurd soft (by decide)
  · exact absurd hard (by decide)

theorem lineEnd_not_mem_settled {ink settled : List Ink}
    (settles : List.Forall₂ Ink.Settles ink settled) (unbroken : .shown '\n' ∉ ink) :
    .shown '\n' ∉ settled := by
  intro member
  obtain ⟨origin, listed, same⟩ := exists_of_mem_settled settles member
  cases same with
  | kept => exact unbroken listed

end

/-- The rules that are listed of a grammar that is read from two texts have their operands. -/
theorem hasOperands_of_mem_listedRules {parserText lexerText : String} {grammar : Grammar}
    (read : Grammar.ofTexts parserText lexerText = .ok grammar) {settings : Settings} {rule : Rule}
    (member : rule ∈ listedRules grammar settings) : rule.body.HasOperands := by
  have valid := Grammar.validate_of_ofTexts read
  rcases List.mem_append.mp member with parser | lexer
  · exact Grammar.hasOperands_of_mem_renderedRules valid parser
  · exact Grammar.hasOperands_of_mem_renderedRules valid (List.mem_filter.mp lexer).1

/-- **Top-level alternatives.**  The listing of a grammar that is read from two texts consists of the
paragraphs of the listed rules.  If no spelling in a rule holds a line end, then as many lines of its
paragraph begin with a bar as there are further alternatives in the first node with other than one child,
provided that this is a choice, and otherwise none.  Of the ink of the paragraph, each bar belongs to a
choice between several alternatives.  The bars of the choice that is that first node stand on lines, and
those of any other stand within lines, between the parentheses of that choice. -/
theorem alternatives_of_listing {parserText lexerText : String} {grammar : Grammar}
    (read : Grammar.ofTexts parserText lexerText = .ok grammar) (settings : Settings) :
    ofGrammar grammar settings = .ok (String.ofList
        ((listedRules grammar settings).flatMap (paragraphOf grammar settings))) ∧
      ∀ rule ∈ listedRules grammar settings,
        (∀ name spelling, .terminal (.token name) ∈ rule.body.tips →
          grammar.inlineSpelling? settings name = some spelling → '\n' ∉ spelling.toList) →
        (∀ address fork, rule.body.Forks address fork →
          barLines (paragraphOf grammar settings rule) =
            if fork.kind.isChoice then fork.children.length - 1 else 0) ∧
        ((∀ address fork, ¬ rule.body.Forks address fork) →
          barLines (paragraphOf grammar settings rule) = 0) ∧
        ∃ ink, List.Forall₂ Ink.Settles (bodyInk grammar settings rule) ink ∧
          paragraphOf grammar settings rule = heading rule ++ ['\n', ':', ' '] ++ Ink.textOf ink ++
            ['\n', ';', '\n', '\n'] ∧
          (∀ address onLine, .bar address onLine ∈ ink → ∃ choice, rule.body.at? address = some choice ∧
            choice.kind.isChoice = true ∧ 1 < choice.children.length) ∧
          ∀ address choice, rule.body.at? address = some choice → choice.kind.isChoice = true →
            1 < choice.children.length →
              rule.body.Forks address choice ∧
                  ink.count (.bar address true) = choice.children.length - 1 ∧
                    ink.count (.bar address false) = 0 ∨
                ¬ rule.body.Forks address choice ∧ ink.count (.bar address true) = 0 ∧
                  ink.count (.bar address false) = choice.children.length - 1 ∧
                    Encloses address ink := by
  refine ⟨(ofGrammar_eq (Grammar.validate_of_ofTexts read) settings).1, fun rule member plain => ?_⟩
  have complete := hasOperands_of_mem_listedRules read member
  obtain ⟨named, readable⟩ := readable_of_mem_listedRules read member
  obtain ⟨ink, settles, written⟩ := exists_settled (resolves_layout settings.textColumnBudget 2
    (Ink.textOf (bodyInk grammar settings rule)))
  have unbroken := lineEnd_not_mem_settled settles (lineEnd_not_mem_bodyInk complete readable plain)
  have shown : paragraphOf grammar settings rule = heading rule ++ ['\n', ':', ' '] ++
      Ink.textOf ink ++ ['\n', ';', '\n', '\n'] := by
    rw [paragraphOf_eq complete, written]
  have lines : barLines (paragraphOf grammar settings rule) =
      (bodyInk grammar settings rule).countP Ink.isLineBar := by
    rw [shown, barLines_paragraph named unbroken, countP_isLineBar_settled settles]
  refine ⟨fun address fork forks => ?_, fun none => ?_, ink, settles, shown,
    fun address onLine listed => ?_, fun address choice found chooses several => ?_⟩
  · rw [lines]
    exact countP_isLineBar_of_forks complete forks
  · rw [lines]
    exact countP_isLineBar_of_not_forks complete none
  · obtain ⟨origin, present, same⟩ := exists_of_mem_settled settles listed
    cases same with
    | kept =>
        obtain ⟨choice, found, chooses, several, -⟩ := exists_choice_of_bar complete present
        exact ⟨choice, found, chooses, several⟩
  · have sole := Node.sole_positionAt_iff complete found (by omega) Position.body
    have bars (onLine : Bool) := (count_bar_settled settles address onLine).trans
      (count_bar_ink (tipText grammar settings) (settings.breaksOf? rule.name) complete found chooses
        Position.body onLine)
    rw [bars, bars]
    cases whole : (rule.body.positionAt Position.body address).sole with
    | true => exact .inl ⟨(sole.mp whole).2, by simp⟩
    | false =>
        refine .inr ⟨fun forks => ?_, by simp, by simp,
          (encloses_ink complete found chooses several whole).settled settles⟩
        exact Bool.false_ne_true (whole.symm.trans (sole.mpr ⟨rfl, forks⟩))

/-- A rule with two alternatives, of which the second holds a repeated choice. -/
def repeatedChoice : Rule where
  name := "r"
  kind := .parser
  line := 1
  body := Notation.choiceOf [[Node.leaf (.ruleRef "a")],
    [.mk (.star true) [Notation.choiceOf [[Node.leaf (.ruleRef "b")], [Node.leaf (.ruleRef "c")]]],
      Node.leaf (.ruleRef "d")]]

/-- The grammar with that rule. -/
def repeatedChoiceGrammar : Grammar :=
  { parserRules := [repeatedChoice]
    lexerRules := []
    parserSource := ["parser grammar P \x7b r : a | (b | c)* d ; \x7d"]
    lexerSource := ["lexer grammar L \x7b \x7d"] }

theorem ofTexts_repeatedChoice :
    Grammar.ofTexts "parser grammar P \x7b r : a | (b | c)* d ; \x7d" "lexer grammar L \x7b \x7d" =
      .ok repeatedChoiceGrammar := by
  decide +kernel

/-- One line begins with a bar, and the bar of the repeated choice stands in its parentheses. -/
theorem alternatives_of_listing_repeatedChoice :
    barLines (paragraphOf repeatedChoiceGrammar {} repeatedChoice) = 1 ∧
      ∃ ink, paragraphOf repeatedChoiceGrammar {} repeatedChoice =
          ['r'] ++ ['\n', ':', ' '] ++ Ink.textOf ink ++ ['\n', ';', '\n', '\n'] ∧
        ink.count (.bar [] true) = 1 ∧ ink.count (.bar [1, 0, 0] false) = 1 ∧
          Encloses [1, 0, 0] ink := by
  have listed : repeatedChoice ∈ listedRules repeatedChoiceGrammar {} := by decide
  have spelled : ∀ name spelling, .terminal (.token name) ∈ repeatedChoice.body.tips →
      repeatedChoiceGrammar.inlineSpelling? {} name = some spelling → '\n' ∉ spelling.toList := by
    intro name spelling shown
    simp [repeatedChoice, Notation.choiceOf, Node.leaf, Node.tips,
      Node.preorder, Node.preorderAll] at shown
  have forks : repeatedChoice.body.Forks [] repeatedChoice.body := .here (by decide)
  obtain ⟨lines, -, ink, -, shown, -, signs⟩ :=
    (alternatives_of_listing ofTexts_repeatedChoice {}).2 repeatedChoice listed spelled
  have outer := signs [] _ rfl rfl (by decide)
  have inner := signs [1, 0, 0] _ rfl rfl (by decide)
  have apart : ¬ repeatedChoice.body.Forks [1, 0, 0] (Notation.choiceOf
      [[Node.leaf (.ruleRef "b")], [Node.leaf (.ruleRef "c")]]) := fun other =>
    absurd (forks.unique other).1 (by decide)
  obtain ⟨-, on_line, -⟩ | ⟨other, -⟩ := outer
  · obtain ⟨other, -⟩ | ⟨-, -, within, encloses⟩ := inner
    · exact absurd other apart
    · exact ⟨lines [] _ forks, ink, shown, on_line, within, encloses⟩
  · exact absurd forks other

end Listing
end Rulebook
