import Mathlib.Data.List.Infix
import Rulebook.Proofs.Listing.Weaving
import Rulebook.Proofs.Rendering.Grouping

/-!
# The signs of choices

A parenthesis or a bar in the listing may belong to any of the choices of a body.  Here the text of a
body is written with each such sign under the address of its choice, so that it can be said of every
choice where its own signs are.
-/

namespace Rulebook
namespace Listing

/-- What a body is written with. -/
inductive Ink where
  /-- A character that is no sign of a choice. -/
  | shown (character : Char)
  /-- The start of a continued line. -/
  | wrap
  /-- The parenthesis that opens the choice at an address. -/
  | opening (choice : List Nat)
  /-- The parenthesis that closes the choice at an address. -/
  | closing (choice : List Nat)
  /-- A bar between alternatives of the choice at an address, at the start of a line or within one. -/
  | bar (choice : List Nat) (onLine : Bool)
  deriving DecidableEq, Repr

namespace Ink

/-- The characters that are written. -/
def text : Ink → Piece
  | shown character => [character]
  | wrap => continuationBreak
  | opening _ => ['(']
  | closing _ => [')']
  | bar _ true => ['\n', '|', ' ']
  | bar _ false => [' ', '|', ' ']

/-- The address of the choice to which a sign belongs. -/
def choice? : Ink → Option (List Nat)
  | shown _ | wrap => none
  | opening choice | closing choice | bar choice _ => some choice

/-- A text without signs of choices. -/
def ofText (text : Piece) : List Ink :=
  text.map shown

/-- The text that is written. -/
def textOf (ink : List Ink) : Piece :=
  ink.flatMap text

/-- The signs of a choice around and between its alternatives. -/
def choice (address : List Nat) (grouping : Bool) (rows : List (List Ink)) : List Ink :=
  if grouping && decide (rows.length > 1) then
    opening address :: [bar address false].intercalate rows ++ [closing address]
  else [bar address true].intercalate rows

/-- Parentheses around more than one element. -/
def group (grouping : Bool) (count : Nat) (ink : List Ink) : List Ink :=
  if grouping && decide (count > 1) then shown '(' :: ink ++ [shown ')'] else ink

/-- The elements of an alternative from a position on, each after its separator. -/
def separated (lineBreaks? : Option (List Nat)) : (position : Nat) → List (List Ink) → List Ink
  | _, [] => []
  | position, row :: later =>
      shown (separator lineBreaks? position) :: row ++ separated lineBreaks? (position + 1) later

/-- The elements of an alternative with their separators. -/
def elements (lineBreaks? : Option (List Nat)) : List (List Ink) → List Ink
  | [] => []
  | first :: later => first ++ separated lineBreaks? 1 later

/-! ### The text of the parts -/

@[simp]
theorem textOf_nil : textOf [] = [] := rfl

@[simp]
theorem textOf_append (first second : List Ink) :
    textOf (first ++ second) = textOf first ++ textOf second :=
  List.flatMap_append

@[simp]
theorem textOf_cons (ink : Ink) (rest : List Ink) : textOf (ink :: rest) = ink.text ++ textOf rest :=
  List.flatMap_cons

@[simp]
theorem textOf_ofText (text : Piece) : textOf (ofText text) = text := by
  induction text with
  | nil => rfl
  | cons character rest induction =>
      rw [ofText, List.map_cons, textOf_cons, ← ofText, induction]
      rfl

theorem textOf_intercalate (separator : List Ink) (rows : List (List Ink)) :
    textOf (separator.intercalate rows) = join (textOf separator) (rows.map textOf) := by
  induction rows with
  | nil => rfl
  | cons row rows induction =>
      cases rows with
      | nil => simp [List.intercalate, join]
      | cons next rows =>
          have split : separator.intercalate (row :: next :: rows) =
              row ++ separator ++ separator.intercalate (next :: rows) := by
            simp [List.intercalate]
          rw [split, textOf_append, textOf_append, induction]
          rfl

theorem textOf_choice (address : List Nat) (grouping : Bool) (rows : List (List Ink)) :
    textOf (choice address grouping rows) = Listing.choice grouping (rows.map textOf) := by
  have inline : textOf [bar address false] = [' ', '|', ' '] := rfl
  have lines : textOf [bar address true] = ['\n', '|', ' '] := rfl
  rw [choice, Listing.choice, List.length_map]
  split
  · case isTrue several =>
      rw [Listing.group, if_pos several]
      simp [textOf_intercalate, inline, text]
  · rw [textOf_intercalate, lines]

theorem textOf_group (grouping : Bool) (count : Nat) (ink : List Ink) :
    textOf (group grouping count ink) = Listing.group grouping count (textOf ink) := by
  rw [group, Listing.group]
  split <;> simp [text]

theorem textOf_separated (lineBreaks? : Option (List Nat)) (position : Nat)
    (rows : List (List Ink)) : textOf (separated lineBreaks? position rows) =
      Listing.separated lineBreaks? position (rows.map textOf) := by
  induction rows generalizing position with
  | nil => rfl
  | cons row rows induction =>
      rw [separated, textOf_append, induction]
      rfl

theorem textOf_elements (lineBreaks? : Option (List Nat)) (rows : List (List Ink)) :
    textOf (elements lineBreaks? rows) = Listing.elements lineBreaks? (rows.map textOf) := by
  cases rows with
  | nil => rfl
  | cons row rows =>
      rw [elements, textOf_append, textOf_separated]
      rfl

end Ink
end Listing

open Listing

/-- What a node of a kind is written with when its children are written with these rows. -/
def NodeKind.ink (tip : NodeKind → Piece) (lineBreaks? : Option (List Nat))
    (grouping inChoice : Bool) (address : List Nat) (rows : List (List Ink)) :
    NodeKind → List Ink
  | .block | .set => Ink.choice address grouping rows
  | .alternative => Ink.group (grouping && !inChoice) rows.length (Ink.elements lineBreaks? rows)
  | .sequence => [.shown ' '].intercalate rows
  | .optional greedy => rows.flatten ++ Ink.ofText (quantifier '?' greedy)
  | .plus greedy => rows.flatten ++ Ink.ofText (quantifier '+' greedy)
  | .star greedy => rows.flatten ++ Ink.ofText (quantifier '*' greedy)
  | .negation => .shown '~' :: rows.flatten
  | .range => [.shown '.', .shown '.'].intercalate rows
  | kind => Ink.ofText (tip kind)

namespace Node

section

variable (tip : NodeKind → Piece) (lineBreaks? : Option (List Nat))

mutual

/-- What a node at a position is written with; its address tells its choices apart from others. -/
def ink (outer : Position) (address : List Nat) : Node → List Ink
  | .mk kind children =>
      kind.ink tip lineBreaks? (Node.needsGrouping (.mk kind children) && !outer.sole) outer.inChoice
        address (inkAll (outer.below kind children) address 0 children)

/-- What each of a row of children from a number on is written with. -/
def inkAll (position : Position) (address : List Nat) (index : Nat) : List Node → List (List Ink)
  | [] => []
  | node :: later =>
      ink position (address ++ [index]) node :: inkAll position address (index + 1) later

end

/-- A tip is written with its text. -/
theorem ink_of_isLeaf {kind : NodeKind} (leaf : kind.isLeaf = true) (outer : Position)
    (address : List Nat) (children : List Node) :
    (mk kind children).ink tip lineBreaks? outer address = Ink.ofText (tip kind) := by
  cases kind with
  | terminal | ruleRef | charSet | predicate | placeholder => rfl
  | _ => simp [NodeKind.isLeaf] at leaf

end
end Node

namespace Listing

section

variable {grammar : Grammar} {settings : Settings}

/-- Does the listing write the nodes at a position as their ink says, whatever has been absorbed? -/
def WritesInk (grammar : Grammar) (settings : Settings) (node : Node) : Prop :=
  ∀ (outer : Position) (address : List Nat) (state : State),
    ∃ after, (node.render (renderer grammar settings) outer).run state =
        .ok (Ink.textOf (node.ink (tipText grammar settings) state.lineBreaks? outer address), after) ∧
      SameBreaks after state

theorem exists_run_renderAll {nodes : List Node}
    (each : ∀ node ∈ nodes, WritesInk grammar settings node) (position : Position)
    (address : List Nat) (index : Nat) (state : State) :
    ∃ after, (Node.renderAll (renderer grammar settings) position nodes).run state =
        .ok ((Node.inkAll (tipText grammar settings) state.lineBreaks? position address index
          nodes).map Ink.textOf, after) ∧ SameBreaks after state := by
  induction nodes generalizing index state with
  | nil => exact ⟨state, rfl, rfl⟩
  | cons node nodes induction =>
      rw [List.forall_mem_cons] at each
      obtain ⟨middle, first, same⟩ := each.1 position (address ++ [index]) state
      obtain ⟨after, later, also⟩ := induction each.2 (index + 1) middle
      refine ⟨after, ?_, also.trans same⟩
      rw [same] at later
      exact Node.run_renderAll_cons_of_ok first later

theorem exists_run_renderFirst {operand : Node} (writes : WritesInk grammar settings operand)
    (position : Position) (operator : NodeKind) (address : List Nat) (state : State) :
    ∃ after, (Node.renderFirst (renderer grammar settings) position operator [operand]).run state =
        .ok (Ink.textOf (Node.inkAll (tipText grammar settings) state.lineBreaks? position address 0
          [operand]).flatten, after) ∧ SameBreaks after state := by
  obtain ⟨after, run, same⟩ := writes position (address ++ [0]) state
  refine ⟨after, run.trans ?_, same⟩
  rw [Node.inkAll, Node.inkAll, List.flatten_singleton]

/-- The ends of a range are written one after the other. -/
theorem exists_run_renderEnds {left right : Node} (first : WritesInk grammar settings left)
    (second : WritesInk grammar settings right) (position : Position) (address : List Nat)
    (state : State) :
    ∃ after, (Node.renderEnds (renderer grammar settings) position [left, right]).run state =
        .ok ((Ink.textOf (left.ink (tipText grammar settings) state.lineBreaks? position
            (address ++ [0])),
          Ink.textOf (right.ink (tipText grammar settings) state.lineBreaks? position
            (address ++ [1]))), after) ∧ SameBreaks after state := by
  obtain ⟨middle, start, kept⟩ := first position (address ++ [0]) state
  obtain ⟨after, stop, same⟩ := second position (address ++ [1]) middle
  rw [kept] at stop
  exact ⟨after, Node.run_renderEnds_of_ok start stop, same.trans kept⟩

/-- A terminal is written with its text, whatever has been absorbed. -/
theorem writesInk_terminal (shown : Terminal) (children : List Node) :
    WritesInk grammar settings (.mk (.terminal shown) children) := by
  intro outer address state
  rw [Node.ink_of_isLeaf _ _ rfl, Ink.textOf_ofText]
  cases shown with
  | literal value => exact ⟨state, rfl, rfl⟩
  | token name =>
      obtain ⟨text, kept⟩ := run_showToken grammar settings name state
      refine ⟨_, ?_, kept⟩
      rw [tipText, ← text]
      rfl

/-- The listing writes a body whose operators have their operands as its ink says. -/
theorem writesInk {node : Node} (complete : node.HasOperands) :
    WritesInk grammar settings node := by
  induction node using Node.induct with
  | mk kind children induction =>
      obtain ⟨here, below⟩ := Node.hasOperands_mk.mp complete
      have each : ∀ child ∈ children, WritesInk grammar settings child := fun child member =>
        induction child member (below child member)
      intro outer address state
      obtain ⟨after, run, same⟩ :=
        exists_run_renderAll each (outer.below kind children) address 0 state
      cases kind with
      | block | set =>
          refine ⟨after, ?_, same⟩
          rw [Node.render, Descent.run_bind_of_ok run, Node.ink, NodeKind.ink, Ink.textOf_choice]
          rfl
      | alternative =>
          refine ⟨after, ?_, same⟩
          rw [Node.render, Descent.run_bind_of_ok run, Node.ink, NodeKind.ink, Ink.textOf_group,
            Ink.textOf_elements, ← same]
          simp only [renderer, List.length_map]
          rfl
      | sequence =>
          refine ⟨after, ?_, same⟩
          rw [Node.render, Descent.run_bind_of_ok run, Node.ink, NodeKind.ink, Ink.textOf_intercalate]
          rfl
      | optional greedy | plus greedy | star greedy | negation =>
          obtain ⟨operand, rfl⟩ := List.length_eq_one_iff.mp (here 1 rfl)
          obtain ⟨after, run, same⟩ := exists_run_renderFirst (each operand List.mem_cons_self)
            (outer.below _ [operand]) _ address state
          refine ⟨after, ?_, same⟩
          rw [Node.render, Descent.run_bind_of_ok run, Node.ink, NodeKind.ink]
          simp only [Ink.textOf_append, Ink.textOf_cons, Ink.textOf_ofText]
          rfl
      | range =>
          obtain ⟨left, right, rfl⟩ := List.length_eq_two.mp (here 2 rfl)
          obtain ⟨after, run, same⟩ := exists_run_renderEnds (each left (by simp))
            (each right (by simp)) (outer.below _ [left, right]) address state
          refine ⟨after, ?_, same⟩
          rw [Node.render, Descent.run_bind_of_ok run, Node.ink, NodeKind.ink,
            Ink.textOf_intercalate]
          simp only [Node.inkAll, List.map_cons, List.map_nil, join]
          rfl
      | terminal shown => exact writesInk_terminal shown children outer address state
      | ruleRef | charSet | predicate | placeholder =>
          refine ⟨state, ?_, rfl⟩
          rw [Node.ink_of_isLeaf _ _ rfl, Ink.textOf_ofText]
          rfl

end

/-! ### Ink of a node around the ink of its children -/

/-- The rows in order, with ink of their own kind before, between and behind them. -/
inductive Interleaves (own : Ink → Prop) : List (List Ink) → List Ink → Prop where
  /-- Nothing is left. -/
  | nil : Interleaves own [] []
  /-- A row. -/
  | row {rows : List (List Ink)} {rest : List Ink} (row : List Ink)
      (later : Interleaves own rows rest) : Interleaves own (row :: rows) (row ++ rest)
  /-- Ink of its own kind. -/
  | own {rows : List (List Ink)} {rest : List Ink} {ink : Ink} (allowed : own ink)
      (later : Interleaves own rows rest) : Interleaves own rows (ink :: rest)

namespace Interleaves

variable {own : Ink → Prop} {rows others : List (List Ink)} {whole more separator : List Ink}

theorem append (first : Interleaves own rows whole) (second : Interleaves own others more) :
    Interleaves own (rows ++ others) (whole ++ more) := by
  induction first with
  | nil => exact second
  | row row _ induction =>
      rw [List.cons_append, List.append_assoc]
      exact .row row induction
  | own allowed _ induction => exact .own allowed induction

theorem of_own (allowed : ∀ ink ∈ whole, own ink) : Interleaves own [] whole := by
  induction whole with
  | nil => exact .nil
  | cons ink rest induction =>
      rw [List.forall_mem_cons] at allowed
      exact .own allowed.1 (induction allowed.2)

theorem behind (first : Interleaves own rows whole) (allowed : ∀ ink ∈ more, own ink) :
    Interleaves own rows (whole ++ more) := by
  simpa using first.append (of_own allowed)

theorem flatten (rows : List (List Ink)) : Interleaves own rows rows.flatten := by
  induction rows with
  | nil => exact .nil
  | cons row rows induction => exact .row row induction

theorem intercalate (allowed : ∀ ink ∈ separator, own ink) (rows : List (List Ink)) :
    Interleaves own rows (separator.intercalate rows) := by
  induction rows with
  | nil => exact .nil
  | cons row rows induction =>
      cases rows with
      | nil => simpa [List.intercalate] using Interleaves.flatten [row]
      | cons next rows =>
          have split : separator.intercalate (row :: next :: rows) =
              row ++ (separator ++ separator.intercalate (next :: rows)) := by
            simp [List.intercalate]
          rw [split]
          exact .row row ((of_own allowed).append induction)

/-- Ink is of the own kind or that of a row. -/
theorem of_mem (interleaves : Interleaves own rows whole) {ink : Ink} (member : ink ∈ whole) :
    own ink ∨ ∃ row ∈ rows, ink ∈ row := by
  induction interleaves with
  | nil => simp at member
  | row row _ induction =>
      rcases List.mem_append.mp member with here | later
      · exact .inr ⟨row, List.mem_cons_self, here⟩
      · exact (induction later).imp id fun ⟨other, listed, inside⟩ =>
          ⟨other, List.mem_cons_of_mem _ listed, inside⟩
  | own allowed _ induction =>
      rcases List.mem_cons.mp member with rfl | later
      · exact .inl allowed
      · exact induction later

/-- Around a row stand the other rows and ink of the own kind. -/
theorem exists_around (interleaves : Interleaves own rows whole) {index : Nat} {row : List Ink}
    (found : rows[index]? = some row) :
    ∃ front back, whole = front ++ row ++ back ∧ ∀ ink ∈ front ++ back,
      own ink ∨ ∃ other row, other ≠ index ∧ rows[other]? = some row ∧ ink ∈ row := by
  induction interleaves generalizing index with
  | nil => simp at found
  | @row rows rest first later induction =>
      cases index with
      | zero =>
          obtain rfl : first = row := by simpa using found
          refine ⟨[], rest, rfl, fun ink member => ?_⟩
          refine (later.of_mem member).imp id fun ⟨other, listed, inside⟩ => ?_
          obtain ⟨place, found⟩ := List.mem_iff_getElem?.mp listed
          exact ⟨place + 1, other, by simp, by simpa using found, inside⟩
      | succ index =>
          obtain ⟨front, back, rfl, each⟩ := induction (by simpa using found)
          refine ⟨first ++ front, back, by simp, fun ink member => ?_⟩
          rw [List.append_assoc] at member
          rcases List.mem_append.mp member with here | around
          · exact .inr ⟨0, first, by simp, rfl, here⟩
          · refine (each ink around).imp id fun ⟨place, other, differs, listed, inside⟩ => ?_
            exact ⟨place + 1, other, by simpa using differs, by simpa using listed, inside⟩
  | @own rows rest ink allowed later induction =>
      obtain ⟨front, back, rfl, each⟩ := induction found
      refine ⟨ink :: front, back, rfl, fun other member => ?_⟩
      rcases List.mem_cons.mp member with rfl | around
      · exact .inl allowed
      · exact each other around

theorem separated (lineBreaks? : Option (List Nat)) (allowed : ∀ position,
    own (.shown (Listing.separator lineBreaks? position))) (position : Nat) (rows : List (List Ink)) :
    Interleaves own rows (Ink.separated lineBreaks? position rows) := by
  induction rows generalizing position with
  | nil => exact .nil
  | cons row rows induction => exact .own (allowed position) (.row row (induction (position + 1)))

theorem elements (lineBreaks? : Option (List Nat)) (allowed : ∀ position,
    own (.shown (Listing.separator lineBreaks? position))) (rows : List (List Ink)) :
    Interleaves own rows (Ink.elements lineBreaks? rows) := by
  cases rows with
  | nil => exact .nil
  | cons row rows => exact .row row (.separated lineBreaks? allowed 1 rows)

end Interleaves

/-- Ink that a node of a kind at an address adds to that of its children: the characters of a tip,
signs and break marks, and the signs of a choice. -/
def Ink.BelongsTo (tip : NodeKind → Piece) (kind : NodeKind) (address : List Nat) : Ink → Prop
  | shown character =>
      character ∈ tip kind ∨ character ∈ signs ∨ character = softBreak ∨ character = hardBreak
  | wrap => False
  | opening choice | closing choice | bar choice _ => choice = address ∧ kind.isChoice = true

theorem Ink.BelongsTo.choice?_eq {tip : NodeKind → Piece} {kind : NodeKind} {address : List Nat}
    {ink : Ink} (belongs : ink.BelongsTo tip kind address) {choice : List Nat}
    (sign : ink.choice? = some choice) : choice = address := by
  cases ink with
  | shown | wrap => simp [Ink.choice?] at sign
  | opening | closing | bar => exact (Option.some.inj sign).symm.trans belongs.1

section

variable (tip : NodeKind → Piece) (lineBreaks? : Option (List Nat)) (kind : NodeKind)
  (address : List Nat)

theorem belongsTo_of_mem_signs (text : Piece) (listed : ∀ character ∈ text, character ∈ signs) :
    ∀ ink ∈ Ink.ofText text, ink.BelongsTo tip kind address :=
  List.forall_mem_map.mpr fun character member => .inr (.inl (listed character member))

theorem belongsTo_separator (position : Nat) :
    (Ink.shown (separator lineBreaks? position)).BelongsTo tip kind address := by
  unfold separator
  split
  · exact .inr (.inr (.inl rfl))
  · split
    · exact .inr (.inr (.inr rfl))
    · exact .inr (.inl (by decide))

theorem mem_signs_of_mem_quantifier {sign : Char} (listed : sign ∈ signs) (greedy : Bool) :
    ∀ character ∈ quantifier sign greedy, character ∈ signs := by
  unfold quantifier
  split
  · simpa using listed
  · simpa using ⟨listed, by decide⟩

theorem interleaves_group (grouping : Bool) (count : Nat) {rows : List (List Ink)}
    {ink : List Ink} (interleaves : Interleaves (Ink.BelongsTo tip kind address) rows ink) :
    Interleaves (Ink.BelongsTo tip kind address) rows (Ink.group grouping count ink) := by
  unfold Ink.group
  split
  · exact .own (.inr (.inl (by decide))) (interleaves.behind
      (belongsTo_of_mem_signs tip kind address [')'] (by decide)))
  · exact interleaves

variable {kind} in
theorem interleaves_choice (chooses : kind.isChoice = true) (grouping : Bool)
    (rows : List (List Ink)) :
    Interleaves (Ink.BelongsTo tip kind address) rows (Ink.choice address grouping rows) := by
  have bar (onLine : Bool) : ∀ ink ∈ [Ink.bar address onLine], ink.BelongsTo tip kind address := by
    simpa using ⟨rfl, chooses⟩
  unfold Ink.choice
  split
  · refine .own ⟨rfl, chooses⟩ ((Interleaves.intercalate (bar false) rows).behind ?_)
    simpa using ⟨rfl, chooses⟩
  · exact .intercalate (bar true) rows

variable {kind} in
/-- A node is written with the ink of its children and its own. -/
theorem interleaves_ink {children : List Node} (complete : (Node.mk kind children).HasOperands)
    (outer : Position) :
    Interleaves (Ink.BelongsTo tip kind address)
      (Node.inkAll tip lineBreaks? (outer.below kind children) address 0 children)
      ((Node.mk kind children).ink tip lineBreaks? outer address) := by
  have sign := belongsTo_of_mem_signs tip kind address
  have here := (Node.hasOperands_mk.mp complete).1
  cases kind with
  | block | set => exact interleaves_choice tip address rfl _ _
  | alternative =>
      exact interleaves_group tip _ address _ _
        (.elements lineBreaks? (belongsTo_separator tip lineBreaks? _ address) _)
  | sequence => exact .intercalate (sign [' '] (by decide)) _
  | optional greedy | plus greedy | star greedy =>
      exact (Interleaves.flatten _).behind (sign _ (mem_signs_of_mem_quantifier (by decide) greedy))
  | negation => exact .own (.inr (.inl (by decide))) (.flatten _)
  | range => exact .intercalate (sign ['.', '.'] (by decide)) _
  | terminal | ruleRef | charSet | predicate | placeholder =>
      obtain rfl := List.eq_nil_of_length_eq_zero (here 0 rfl)
      exact .of_own (List.forall_mem_map.mpr fun character member => .inl member)

theorem getElem?_inkAll (position : Position) (start index : Nat) (nodes : List Node) :
    (Node.inkAll tip lineBreaks? position address start nodes)[index]? =
      nodes[index]?.map (Node.ink tip lineBreaks? position (address ++ [start + index])) := by
  induction nodes generalizing start index with
  | nil => rfl
  | cons node nodes induction =>
      cases index with
      | zero => rfl
      | succ index =>
          rw [Node.inkAll, List.getElem?_cons_succ, List.getElem?_cons_succ, induction,
            Nat.succ_add_eq_add_succ]

theorem exists_of_getElem?_inkAll {position : Position} {nodes : List Node} {index : Nat}
    {row : List Ink}
    (found : (Node.inkAll tip lineBreaks? position address 0 nodes)[index]? = some row) :
    ∃ child, nodes[index]? = some child ∧
      row = child.ink tip lineBreaks? position (address ++ [index]) := by
  rw [getElem?_inkAll, Nat.zero_add, Option.map_eq_some_iff] at found
  obtain ⟨child, listed, rfl⟩ := found
  exact ⟨child, listed, rfl⟩

variable {tip lineBreaks?} in
/-- All ink of a body belongs to one of its nodes. -/
theorem exists_at?_of_mem_ink {body : Node} (complete : body.HasOperands) {outer : Position}
    {address : List Nat} {ink : Ink} (member : ink ∈ body.ink tip lineBreaks? outer address) :
    ∃ below part, body.at? below = some part ∧
      ink.BelongsTo tip part.kind (address ++ below) := by
  induction body using Node.induct generalizing outer address with
  | mk kind children induction =>
      have operands := (Node.hasOperands_mk.mp complete).2
      rcases (interleaves_ink tip lineBreaks? address complete outer).of_mem member with
        here | ⟨row, listed, inside⟩
      · exact ⟨[], _, rfl, by rwa [List.append_nil]⟩
      · obtain ⟨index, found⟩ := List.mem_iff_getElem?.mp listed
        obtain ⟨child, place, rfl⟩ := exists_of_getElem?_inkAll tip lineBreaks? address found
        have among := List.mem_of_getElem? place
        obtain ⟨below, part, reached, belongs⟩ := induction child among (operands child among) inside
        refine ⟨index :: below, part, (Node.at?_cons place below).trans reached, ?_⟩
        rwa [List.append_assoc] at belongs

variable {tip lineBreaks? address} in
/-- The signs of the choices in a node belong to addresses at or below its own. -/
theorem isPrefix_of_mem_ink {node : Node} (complete : node.HasOperands) {outer : Position}
    {ink : Ink} (member : ink ∈ node.ink tip lineBreaks? outer address) {choice : List Nat}
    (sign : ink.choice? = some choice) : address <+: choice := by
  obtain ⟨below, part, -, belongs⟩ := exists_at?_of_mem_ink complete member
  exact belongs.choice?_eq sign ▸ List.prefix_append address below

/-- The ink of a node stands in that of the body, and no sign of the choices at or below the address of
the node stands outside. -/
theorem exists_ink_around {body part : Node} (complete : body.HasOperands) {below : List Nat}
    (found : body.at? below = some part) (outer : Position) :
    ∃ front back, body.ink tip lineBreaks? outer address =
        front ++ part.ink tip lineBreaks? (body.positionAt outer below) (address ++ below) ++ back ∧
      ∀ ink ∈ front ++ back, ∀ choice, ink.choice? = some choice → ¬ address ++ below <+: choice := by
  induction below generalizing body outer address with
  | nil =>
      obtain rfl := Option.some.inj found
      exact ⟨[], [], by simp [Node.positionAt], by simp⟩
  | cons index below induction =>
      obtain ⟨child, listed, later⟩ := Node.at?_cons_eq_some.mp found
      obtain ⟨kind, children⟩ := body
      have operands := (Node.hasOperands_mk.mp complete).2
      have row : (Node.inkAll tip lineBreaks? (outer.below kind children) address 0 children)[index]? =
          some (child.ink tip lineBreaks? (outer.below kind children) (address ++ [index])) := by
        rw [getElem?_inkAll, Nat.zero_add]
        exact congrArg (Option.map _) listed
      obtain ⟨front, back, whole, outside⟩ :=
        (interleaves_ink tip lineBreaks? address complete outer).exists_around row
      obtain ⟨before, after, inner, around⟩ :=
        induction (address ++ [index]) (operands child (List.mem_of_getElem? listed)) later
          (outer.below kind children)
      refine ⟨front ++ before, after ++ back, ?_, fun ink member choice sign inside => ?_⟩
      · rw [whole, inner, Node.positionAt_cons listed, List.append_assoc address]
        simp
      · have split : address ++ index :: below = address ++ [index] ++ below := by simp
        rw [split] at inside
        have close : address ++ [index] <+: choice := (List.prefix_append _ below).trans inside
        have cases : ink ∈ before ++ after ∨ ink ∈ front ++ back := by
          simp only [List.mem_append] at member ⊢
          tauto
        rcases cases with near | far
        · exact around ink near choice sign inside
        · rcases outside ink far with own | ⟨other, row, differs, found, member⟩
          · have shorter := (own.choice?_eq sign ▸ close).length_le
            rw [List.length_append, List.length_singleton] at shorter
            omega
          · obtain ⟨sibling, place, rfl⟩ := exists_of_getElem?_inkAll tip lineBreaks? address found
            have beside := isPrefix_of_mem_ink (operands sibling (List.mem_of_getElem? place)) member
              sign
            have same := (List.prefix_of_prefix_length_le beside close (by simp)).eq_of_length
              (by simp)
            exact differs (by simpa using same)

end

end Listing
end Rulebook
