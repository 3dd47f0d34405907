import Rulebook.Proofs.Notation.Printing

/-!
# Elements read back

The tokens of an element are read as that element, and nothing behind them is taken for a part of
it.  Readers look one or two tokens ahead, so this asks that no sign follows that the reader in
question knows; the tokens of an element, a bar, a semicolon and the end of a group are all safe.
-/

namespace Rulebook
namespace Notation

theorem TokenTree.items_append (trees later : List TokenTree) :
    TokenTree.items (trees ++ later) = TokenTree.items trees ++ TokenTree.items later := by
  rw [TokenTree.items_eq, TokenTree.items_eq, TokenTree.items_eq, List.map_append]

@[simp]
theorem item_sign (symbol : Char) : (sign symbol).item = .leaf (.mark symbol false) := rfl

@[simp]
theorem item_word (line : Nat) (name : String) :
    (word line name).item = .leaf (.identifier name line) := rfl

/-! ### What may follow -/

/-- None of these signs stands at the front. -/
def Apart (signs : List Char) (items : List Item) : Prop :=
  ∀ symbol ∈ signs, startsWithMark symbol items = false

/-- Signs that continue an atom. -/
def atomSigns : List Char :=
  ['=', '+', '?']

/-- Signs that continue an element. -/
def elementSigns : List Char :=
  ['=', '+', '?', '*', '.']

theorem Apart.mono {signs fewer : List Char} {items : List Item} (apart : Apart signs items)
    (subset : fewer ⊆ signs) : Apart fewer items :=
  fun symbol member => apart symbol (subset member)

theorem Apart.atom {items : List Item} (apart : Apart elementSigns items) :
    Apart atomSigns items :=
  apart.mono (by decide)

theorem apart_mark {signs : List Char} {symbol : Char} (other : symbol ∉ signs) (joint : Bool)
    (rest : List Item) : Apart signs (.leaf (.mark symbol joint) :: rest) := by
  intro sign member
  simp only [startsWithMark, beq_eq_false_iff_ne]
  rintro rfl
  exact other member

theorem Apart.startsWithPair {signs : List Char} {items : List Item} (apart : Apart signs items)
    {first : Char} (member : first ∈ signs) (second : Char) :
    startsWithPair first second items = false := by
  have absent := apart first member
  fun_cases Notation.startsWithPair first second items with
  | case1 => simp_all [startsWithMark]
  | case2 => rfl

/-- The tokens of an element begin with no punctuation, except for those of a negation. -/
theorem IsElement.exists_items {node : Node} (element : IsElement node) (line : Nat) :
    ∃ item later, TokenTree.items (node.tokens line) = item :: later ∧
      ((∀ symbol rest, startsWithMark symbol (item :: rest) = false) ∨
        node.kind = .negation ∧ item = .leaf (.mark '~' false)) := by
  induction element with
  | literal | charSet | token | ruleRef | predicate | placeholder =>
      exact ⟨_, _, rfl, .inl fun _ _ => rfl⟩
  | choice =>
      rw [tokens_choiceOf]
      exact ⟨_, _, rfl, .inl fun _ _ => rfl⟩
  | @quantified quantifier rows quantifies =>
      rw [Node.tokens_mk, List.map_singleton, tokens_choiceOf]
      cases quantifier with
      | optional | plus | star => exact ⟨_, _, rfl, .inl fun _ _ => rfl⟩
      | _ => simp [NodeKind.isQuantifier] at quantifies
  | @range left right _ _ plain_left _ first _ =>
      obtain ⟨item, later, same, begins⟩ := first
      rw [tokens_range, TokenTree.items_append, same]
      refine ⟨item, _, rfl, .inl (begins.resolve_right ?_)⟩
      rintro ⟨negation, -⟩
      simp [negation, NodeKind.isAtomic] at plain_left
  | negation | negatedSet =>
      rw [tokens_negation]
      exact ⟨_, _, rfl, .inr ⟨rfl, rfl⟩⟩

section Front

variable {node : Node} {line : Nat}

theorem IsElement.apart (element : IsElement node) {signs : List Char} (others : '~' ∉ signs)
    (rest : List Item) : Apart signs (TokenTree.items (node.tokens line) ++ rest) := by
  obtain ⟨item, later, same, begins⟩ := element.exists_items line
  intro symbol member
  rw [same]
  rcases begins with plain | ⟨-, rfl⟩
  · exact plain symbol _
  · exact apart_mark others false _ symbol member

theorem IsElement.startsWithMark_negation (element : IsElement node)
    (plain : node.kind ≠ .negation) (rest : List Item) :
    startsWithMark '~' (TokenTree.items (node.tokens line) ++ rest) = false := by
  obtain ⟨item, later, same, begins⟩ := element.exists_items line
  rw [same]
  exact begins.resolve_right (fun negation => plain negation.1) '~' _

theorem IsElement.isEmpty_items (element : IsElement node) (rest : List Item) :
    (TokenTree.items (node.tokens line) ++ rest).isEmpty = false := by
  obtain ⟨item, later, same, -⟩ := element.exists_items line
  rw [same]
  rfl

theorem IsElement.endsInGroup (element : IsElement node) (rest : List Item) :
    endsInGroup (TokenTree.items (node.tokens line) ++ rest) = false := by
  have apart : Apart ['|'] (TokenTree.items (node.tokens line) ++ rest) :=
    element.apart (by decide) rest
  simp [Notation.endsInGroup, element.isEmpty_items, apart _ _]

theorem IsElement.endsInRule (element : IsElement node) (rest : List Item) :
    endsInRule (TokenTree.items (node.tokens line) ++ rest) = false := by
  have apart : Apart ['|', ';', '-', '#'] (TokenTree.items (node.tokens line) ++ rest) :=
    element.apart (by decide) rest
  simp [Notation.endsInRule, element.isEmpty_items, apart _ _, apart.startsWithPair]

end Front

/-! ### Elements -/

/-- The tokens of an element are read as the element by every reader that can meet it. -/
structure ReadsBack (line : Nat) (node : Node) : Prop where
  /-- What is no operator is read as an atom. -/
  atom : node.kind.isAtomic = true → ∀ rest, Apart atomSigns rest →
    readAtom (TokenTree.items (node.tokens line) ++ rest) = .ok (node, rest)
  /-- A range, and what is no operator, is read as an atom or a range. -/
  range : node.kind = .range ∨ node.kind.isAtomic = true → ∀ rest, Apart elementSigns rest →
    readRange (TokenTree.items (node.tokens line) ++ rest) = .ok (node, rest)
  /-- Everything is read as an element. -/
  element : ∀ rest, Apart elementSigns rest →
    readElement (TokenTree.items (node.tokens line) ++ rest) = .ok (node, rest)

theorem quantify_of_apart (node : Node) {rest : List Item} (apart : Apart elementSigns rest) :
    quantify node rest = (node, rest) := by
  match rest, apart with
  | .leaf (.mark symbol joint) :: later, apart =>
      have other (sign : Char) (member : sign ∈ elementSigns) : symbol ≠ sign := by
        simpa [startsWithMark] using apart sign member
      rw [quantify]
      simp [other '?' (by decide), other '*' (by decide), other '+' (by decide)]
  | [], _ => simp [quantify]
  | .leaf (.identifier _ _) :: _, _ => simp [quantify]
  | .leaf (.text _) :: _, _ => simp [quantify]
  | .leaf (.character _) :: _, _ => simp [quantify]
  | .leaf .other :: _, _ => simp [quantify]
  | .choice _ :: _, _ => simp [quantify]
  | .set _ :: _, _ => simp [quantify]
  | .braces _ :: _, _ => simp [quantify]

section Elements

variable {node : Node} {line : Nat}

theorem readElement_of_readRange {items rest : List Item}
    (plain : startsWithMark '~' items = false) (apart : Apart elementSigns rest)
    (read : readRange items = .ok (node, rest)) : readElement items = .ok (node, rest) := by
  simp [readElement, plain, read, quantify_of_apart node apart]

/-- What is no operator and is read as an atom is read by every reader. -/
theorem ReadsBack.of_atom (element : IsElement node) (plain : node.kind.isAtomic = true)
    (atom : ∀ rest, Apart atomSigns rest →
      readAtom (TokenTree.items (node.tokens line) ++ rest) = .ok (node, rest)) :
    ReadsBack line node := by
  have range (rest : List Item) (apart : Apart elementSigns rest) :
      readRange (TokenTree.items (node.tokens line) ++ rest) = .ok (node, rest) := by
    simp [readRange, atom rest apart.atom, apart.startsWithPair (by decide : '.' ∈ elementSigns)]
  have not_negation : node.kind ≠ .negation := fun negation => by
    simp [negation, NodeKind.isAtomic] at plain
  exact ⟨fun _ => atom, fun _ => range, fun rest apart =>
    readElement_of_readRange (element.startsWithMark_negation not_negation rest) apart
      (range rest apart)⟩

/-- An operator that is no range is read as an element only. -/
theorem ReadsBack.of_operator (operator : node.kind.isAtomic = false) (other : node.kind ≠ .range)
    (element : ∀ rest, Apart elementSigns rest →
      readElement (TokenTree.items (node.tokens line) ++ rest) = .ok (node, rest)) :
    ReadsBack line node :=
  ⟨fun plain => by simp [plain] at operator,
    fun either => by simp [other, operator] at either, element⟩

theorem ReadsBack.reference {name : String} (identifier : IsIdentifier name) :
    ReadsBack line (Node.reference name) := by
  refine .of_atom (.reference identifier) (isAtomic_reference name) fun rest apart => ?_
  have unlabelled : skipLabel (.leaf (.identifier name line) :: rest) =
      .leaf (.identifier name line) :: rest := by
    simp [skipLabel, apart '=' (by decide), apart.startsWithPair (by decide : '+' ∈ atomSigns)]
  simp [tokens_reference, TokenTree.items_eq, readAtom, unlabelled, readBareAtom]

theorem ReadsBack.placeholder : ReadsBack line (Node.leaf .placeholder) := by
  refine .of_atom .placeholder rfl fun rest apart => ?_
  have unmarked : startsWithMark '?' rest = false := apart '?' (by decide)
  simp [Node.leaf, Node.tokens_mk, NodeKind.tokens, TokenTree.items_eq, TokenTree.item, readAtom,
    skipLabel, readBareAtom, unmarked]

/-- A range between two atoms that are read back. -/
theorem ReadsBack.between {left right : Node} (element : IsElement (.mk .range [left, right]))
    (first : ReadsBack line left) (second : ReadsBack line right)
    (plain_left : left.kind.isAtomic = true) (plain_right : right.kind.isAtomic = true) :
    ReadsBack line (.mk .range [left, right]) := by
  have range (rest : List Item) (apart : Apart elementSigns rest) :
      readRange (TokenTree.items ((Node.mk .range [left, right]).tokens line) ++ rest) =
        .ok (.mk .range [left, right], rest) := by
    have dots : Apart atomSigns (.leaf (.mark '.' true) :: .leaf (.mark '.' false) ::
        (TokenTree.items (right.tokens line) ++ rest)) := apart_mark (by decide) true _
    have left_read := first.atom plain_left _ dots
    have right_read := second.atom plain_right rest apart.atom
    have same : TokenTree.items ((Node.mk .range [left, right]).tokens line) ++ rest =
        TokenTree.items (left.tokens line) ++ .leaf (.mark '.' true) ::
          .leaf (.mark '.' false) :: (TokenTree.items (right.tokens line) ++ rest) := by
      simp [tokens_range, TokenTree.items_eq, TokenTree.item]
    simp [same, readRange, left_read, right_read, startsWithPair, startsWithMark]
  exact ⟨fun plain => by simp [NodeKind.isAtomic] at plain, fun _ => range, fun rest apart =>
    readElement_of_readRange (element.startsWithMark_negation (by simp) rest) apart
      (range rest apart)⟩

/-- A negation reads what it negates as an atom or a range. -/
theorem ReadsBack.negation {operand : Node}
    (range : ∀ rest, Apart elementSigns rest →
      ∃ inner, readRange (TokenTree.items (operand.tokens line) ++ rest) = .ok (inner, rest) ∧
        negated inner = operand) :
    ReadsBack line (.mk .negation [operand]) := by
  refine .of_operator rfl (by simp) fun rest apart => ?_
  obtain ⟨inner, read, same⟩ := range rest apart
  simp [tokens_negation, TokenTree.items, readElement, startsWithMark, read, same,
    quantify_of_apart _ apart]

end Elements

/-! ### Rows and groups -/

section Rows

variable {line : Nat}

/-- No sign that continues an element stands in front of a row of elements. -/
theorem apart_rowTokens {row : List Node} {rest : List Item} (each : ∀ node ∈ row, IsElement node)
    (apart : Apart elementSigns rest) :
    Apart elementSigns (TokenTree.items (rowTokens line row) ++ rest) := by
  cases row with
  | nil => exact apart
  | cons node row =>
      rw [rowTokens_cons, TokenTree.items_append, List.append_assoc]
      exact (each node List.mem_cons_self).apart (by decide) _

theorem readElements_eq_map {ends : List Item → Bool} {items rest : List Item} {node : Node}
    (continues : ends items = false) (read : readElement items = .ok (node, rest)) :
    readElements ends items =
      (readElements ends rest).map fun found => (node :: found.1, found.2) := by
  rw [readElements, continues]
  simp only [Bool.false_eq_true, if_false]
  split
  · simp_all
  · case h_2 first after same =>
      rw [read] at same
      obtain ⟨rfl, rfl⟩ := Prod.mk.inj (Except.ok.inj same)
      cases readElements ends rest <;> rfl

theorem readElements_of_readElement {ends : List Item → Bool} {items middle rest : List Item}
    {node : Node} {nodes : List Node} (continues : ends items = false)
    (first : readElement items = .ok (node, middle))
    (later : readElements ends middle = .ok (nodes, rest)) :
    readElements ends items = .ok (node :: nodes, rest) := by
  rw [readElements_eq_map continues first, later, Except.map]

theorem readChoice_of_readElements {items rest : List Item} {bar : Item} {nodes : List Node}
    {alternatives : List Node} (first : readElements endsInGroup items = .ok (nodes, bar :: rest))
    (later : readChoice rest = .ok alternatives) :
    readChoice items = .ok (Node.alternative nodes :: alternatives) := by
  rw [readChoice]
  split <;> simp_all

/-- A row of elements is read up to where a row ends. -/
theorem readElements_rowTokens {ends : List Item → Bool} {row : List Node} {rest : List Item}
    (continues : ∀ node, IsElement node → ∀ rest,
      ends (TokenTree.items (node.tokens line) ++ rest) = false)
    (each : ∀ node ∈ row, IsElement node) (back : ∀ node ∈ row, ReadsBack line node)
    (apart : Apart elementSigns rest) (stop : ends rest = true) :
    readElements ends (TokenTree.items (rowTokens line row) ++ rest) = .ok (row, rest) := by
  induction row with
  | nil =>
      rw [readElements]
      simp [TokenTree.items, stop]
  | cons node row induction =>
      rw [List.forall_mem_cons] at each back
      rw [rowTokens_cons, TokenTree.items_append, List.append_assoc]
      exact readElements_of_readElement (continues node each.1 _)
        (back.1.element _ (apart_rowTokens each.2 apart)) (induction each.2 back.2)

/-- The alternatives of a group are read back. -/
theorem readChoice_barred {rows : List (List Node)} (some : rows ≠ [])
    (each : ∀ row ∈ rows, ∀ node ∈ row, IsElement node)
    (back : ∀ row ∈ rows, ∀ node ∈ row, ReadsBack line node) :
    readChoice (TokenTree.items (barred (rows.map (rowTokens line)))) =
      .ok (rows.map Node.alternative) := by
  have row_read {row : List Node} {rest : List Item} (member : row ∈ rows)
      (apart : Apart elementSigns rest) (stop : endsInGroup rest = true) :
      readElements endsInGroup (TokenTree.items (rowTokens line row) ++ rest) = .ok (row, rest) :=
    readElements_rowTokens (fun _ element => element.endsInGroup) (each row member)
      (back row member) apart stop
  induction rows with
  | nil => exact (some rfl).elim
  | cons row rows induction =>
      cases rows with
      | nil =>
          have alone : readElements endsInGroup (TokenTree.items (rowTokens line row) ++ []) =
              .ok (row, []) := row_read List.mem_cons_self (fun _ _ => rfl) rfl
          rw [List.append_nil] at alone
          rw [List.map_singleton, barred_singleton, readChoice]
          split <;> simp_all
      | cons next rows =>
          rw [List.forall_mem_cons] at each back
          have later := induction (by simp) each.2 back.2 fun member =>
            row_read (List.mem_cons_of_mem row member)
          rw [List.map_cons, List.map_cons, barred_cons_cons, TokenTree.items_append]
          exact readChoice_of_readElements
            (row_read List.mem_cons_self (apart_mark (by decide) false _) rfl) later

/-- The item of a group whose alternatives are read back. -/
theorem items_parenthesis {rows : List (List Node)} (some : rows ≠ [])
    (each : ∀ row ∈ rows, ∀ node ∈ row, IsElement node)
    (back : ∀ row ∈ rows, ∀ node ∈ row, ReadsBack line node) :
    TokenTree.items [.group .parenthesis (barred (rows.map (rowTokens line)))] =
      [.choice (.ok (rows.map Node.alternative))] := by
  simp [TokenTree.items, TokenTree.item, readChoice_barred some each back]

theorem readRange_choice (rows : List (List Node)) {rest : List Item}
    (no_range : startsWithPair '.' '.' rest = false) :
    readRange (.choice (.ok (rows.map Node.alternative)) :: rest) = .ok (choiceOf rows, rest) := by
  have atom : readAtom (.choice (.ok (rows.map Node.alternative)) :: rest) =
      .ok (choiceOf rows, rest) := rfl
  simp [readRange, atom, no_range]

/-- Quantifiers with their signs. -/
def quantifiers : List (Char × (Bool → NodeKind)) :=
  [('?', .optional), ('*', .star), ('+', .plus)]

/-- The signs of a quantifier are taken for it, and nothing behind them. -/
theorem quantify_signs {symbol : Char} {quantifier : Bool → NodeKind}
    (known : (symbol, quantifier) ∈ quantifiers) (greedy : Bool) (node : Node) {rest : List Item}
    (apart : Apart elementSigns rest) :
    quantify node (TokenTree.items (quantifierSigns symbol greedy) ++ rest) =
      (.mk (quantifier greedy) [operand node], rest) := by
  have done := quantify_of_apart (.mk (quantifier greedy) [operand node]) apart
  have no_second := apart '?' (by decide)
  simp only [quantifiers, List.mem_cons, Prod.mk.injEq, List.not_mem_nil, or_false] at known
  cases greedy with
  | false =>
      rcases known with ⟨rfl, rfl⟩ | ⟨rfl, rfl⟩ | ⟨rfl, rfl⟩ <;>
        simp [quantifierSigns, TokenTree.items, quantify, done]
  | true =>
      -- What follows is looked at twice: as a second sign of this quantifier, and as the next one.
      change quantify node (.leaf (.mark symbol false) :: rest) = _
      rw [quantify.eq_def]
      rcases known with ⟨rfl, rfl⟩ | ⟨rfl, rfl⟩ | ⟨rfl, rfl⟩
      all_goals
        simp only [if_true]
        split <;> simp_all [startsWithMark]

theorem exists_signs {quantifier : NodeKind} (quantifies : quantifier.isQuantifier = true)
    (line : Nat) :
    ∃ symbol kind greedy, (symbol, kind) ∈ quantifiers ∧ quantifier = kind greedy ∧
      ∀ rows, quantifier.tokens line rows = rows.flatten ++ quantifierSigns symbol greedy := by
  cases quantifier with
  | optional greedy => exact ⟨'?', .optional, greedy, by simp [quantifiers], rfl, fun _ => rfl⟩
  | star greedy => exact ⟨'*', .star, greedy, by simp [quantifiers], rfl, fun _ => rfl⟩
  | plus greedy => exact ⟨'+', .plus, greedy, by simp [quantifiers], rfl, fun _ => rfl⟩
  | _ => simp [NodeKind.isQuantifier] at quantifies

/-- The signs of a quantifier are not those of a range. -/
theorem startsWithPair_quantifierSigns (symbol : Char) (greedy : Bool) (rest : List Item) :
    startsWithPair '.' '.' (TokenTree.items (quantifierSigns symbol greedy) ++ rest) = false := by
  cases greedy <;> simp [quantifierSigns, TokenTree.items, startsWithPair]

/-- A quantifier reads the group before its signs as its operand. -/
theorem ReadsBack.quantified {quantifier : NodeKind} (quantifies : quantifier.isQuantifier = true)
    {rows : List (List Node)} (some : rows ≠ [])
    (each : ∀ row ∈ rows, ∀ node ∈ row, IsElement node)
    (back : ∀ row ∈ rows, ∀ node ∈ row, ReadsBack line node) :
    ReadsBack line (.mk quantifier [choiceOf rows]) := by
  have operator : quantifier.isAtomic = false ∧ quantifier ≠ .range := by
    cases quantifier <;> simp_all [NodeKind.isQuantifier, NodeKind.isAtomic]
  refine .of_operator operator.1 operator.2 fun rest apart => ?_
  obtain ⟨symbol, kind, greedy, known, rfl, shown⟩ := exists_signs quantifies line
  have same : TokenTree.items ((Node.mk (kind greedy) [choiceOf rows]).tokens line) ++ rest =
      .choice (.ok (rows.map Node.alternative)) ::
        (TokenTree.items (quantifierSigns symbol greedy) ++ rest) := by
    rw [Node.tokens_mk, shown, List.map_singleton, List.flatten_singleton, tokens_choiceOf,
      TokenTree.items_append, items_parenthesis some each back]
    rfl
  have range := readRange_choice rows (startsWithPair_quantifierSigns symbol greedy rest)
  have signs := quantify_signs known greedy (choiceOf rows) apart
  have whole : operand (choiceOf rows) = choiceOf rows := rfl
  -- The group is read without regard to the signs behind it, so that they are left to `quantify`.
  rw [same, readElement]
  simp only [startsWithMark, Bool.false_eq_true, if_false, range, signs, whole]

end Rows

/-! ### Every element -/

theorem negated_singletons {members : List Node} (single : ∀ member ∈ members, IsMember member) :
    negated (choiceOf (members.map fun member => [member])) = .mk .set members := by
  have block : (choiceOf (members.map fun member => [member])).kind = .block := rfl
  rw [negated, if_pos block, setMembers?_singletons single]

/-- What is no choice between members of a set is negated as it is. -/
theorem negated_eq_self {operand : Node} (element : IsElement operand)
    (no_set : ∀ members : List Node, (∀ member ∈ members, IsMember member) →
      operand ≠ choiceOf (members.map fun member => [member])) : negated operand = operand := by
  unfold negated
  split
  · rename_i block
    obtain ⟨rows, -, rfl, each⟩ := element.isBody block
    split
    · rename_i members found
      obtain ⟨rfl, single⟩ := setMembers?_alternatives found
      have is_set : ∀ member ∈ members, IsMember member := fun member present =>
        (each [member] (List.mem_map_of_mem present) member List.mem_cons_self).isMember
          (single member present)
      exact absurd rfl (no_set members is_set)
    · rfl
  · rfl

/-- Every element is read back. -/
theorem IsElement.readsBack {node : Node} (element : IsElement node) (line : Nat) :
    ReadsBack line node := by
  induction element with
  | literal value => exact .of_atom (.literal value) rfl fun _ _ => rfl
  | charSet body => exact .of_atom (.charSet body) rfl fun _ _ => rfl
  | token identifier spelled upper =>
      rw [← reference_eq_token spelled upper]
      exact .reference identifier
  | ruleRef identifier spelled other =>
      rw [← reference_eq_ruleRef spelled other]
      exact .reference identifier
  | predicate => exact .of_atom .predicate rfl fun _ _ => rfl
  | placeholder => exact .placeholder
  | choice some each back =>
      refine .of_atom (.choice some each) rfl fun rest _ => ?_
      rw [tokens_choiceOf, items_parenthesis some each back]
      rfl
  | quantified quantifies some each back => exact .quantified quantifies some each back
  | range first second plain_left plain_right back_left back_right =>
      exact .between (.range first second plain_left plain_right) back_left back_right plain_left
        plain_right
  | negation inner plain no_set back =>
      exact .negation fun rest apart =>
        ⟨_, back.range plain rest apart, negated_eq_self inner no_set⟩
  | @negatedSet members some each single back =>
      refine .negation fun rest apart => ⟨_, ?_, negated_singletons single⟩
      rw [tokens_set, items_parenthesis (by simpa using some) (by simpa using each)
        (by simpa using back)]
      exact readRange_choice _ (apart.startsWithPair (by decide) '.')

end Notation
end Rulebook
