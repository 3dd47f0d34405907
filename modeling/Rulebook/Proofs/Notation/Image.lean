import Rulebook.Notation.Choice
import Rulebook.Proofs.Grammar.Arity
import Rulebook.Proofs.Notation.Identifiers

/-!
# What the reader makes of a text

The body of every rule that is read is a choice of alternatives over elements of a few shapes, and
every name in it is an identifier.
-/

namespace Rulebook

namespace NodeKind

/-- Kinds that say how often their operand occurs. -/
def isQuantifier : NodeKind → Bool
  | optional _ | plus _ | star _ => true
  | _ => false

/-- Is the quantifier greedy? -/
def isGreedy : NodeKind → Bool
  | optional greedy | plus greedy | star greedy => greedy
  | _ => true

/-- Kinds that render to nothing. -/
def isSilent : NodeKind → Bool
  | predicate | placeholder => true
  | _ => false

/-- Kinds that are no operators: neither quantifiers nor negations nor ranges. -/
def isAtomic : NodeKind → Bool
  | optional _ | plus _ | star _ | negation | range => false
  | _ => true

end NodeKind

namespace Notation

/-- The choice between alternatives over rows of elements. -/
def choiceOf (rows : List (List Node)) : Node :=
  .mk .block (rows.map fun row => .mk .alternative row)

/-- The nodes that a negated set can have for members. -/
inductive IsMember : Node → Prop where
  /-- A spelling. -/
  | literal (value : String) : IsMember (.mk (.terminal (.literal value)) [])
  /-- A set of characters. -/
  | charSet (body : String) : IsMember (.mk (.charSet body) [])
  /-- A token. -/
  | token (name : String) : IsMember (.mk (.terminal (.token name)) [])

/-- The nodes that elements of the notation stand for. -/
inductive IsElement : Node → Prop where
  /-- A spelling. -/
  | literal (value : String) : IsElement (.mk (.terminal (.literal value)) [])
  /-- A set of characters. -/
  | charSet (body : String) : IsElement (.mk (.charSet body) [])
  /-- A reference to a token, whose name begins with an upper-case character. -/
  | token {name : String} {initial : Char} {later : List Char} (identifier : IsIdentifier name)
      (spelled : name.toList = initial :: later) (upper : Unicode.isUppercase initial = true) :
      IsElement (.mk (.terminal (.token name)) [])
  /-- A reference to a rule, whose name begins with any other character. -/
  | ruleRef {name : String} {initial : Char} {later : List Char} (identifier : IsIdentifier name)
      (spelled : name.toList = initial :: later) (other : Unicode.isUppercase initial = false) :
      IsElement (.mk (.ruleRef name) [])
  /-- A semantic condition. -/
  | predicate : IsElement (.mk .predicate [])
  /-- The place of an embedded action. -/
  | placeholder : IsElement (.mk .placeholder [])
  /-- A group of alternatives. -/
  | choice {rows : List (List Node)} (some : rows ≠ [])
      (each : ∀ row ∈ rows, ∀ node ∈ row, IsElement node) : IsElement (choiceOf rows)
  /-- A quantifier around a group of alternatives. -/
  | quantified {quantifier : NodeKind} {rows : List (List Node)}
      (quantifies : quantifier.isQuantifier = true) (some : rows ≠ [])
      (each : ∀ row ∈ rows, ∀ node ∈ row, IsElement node) :
      IsElement (.mk quantifier [choiceOf rows])
  /-- A range between two elements that are no operators. -/
  | range {left right : Node} (first : IsElement left) (second : IsElement right)
      (plain_left : left.kind.isAtomic = true) (plain_right : right.kind.isAtomic = true) :
      IsElement (.mk .range [left, right])
  /-- A negation of a range or of an element that is no operator and no choice between members of a
  set. -/
  | negation {operand : Node} (inner : IsElement operand)
      (plain : operand.kind = .range ∨ operand.kind.isAtomic = true)
      (no_set : ∀ members : List Node, (∀ member ∈ members, IsMember member) →
        operand ≠ choiceOf (members.map fun member => [member])) :
      IsElement (.mk .negation [operand])
  /-- A negation of a set. -/
  | negatedSet {members : List Node} (some : members ≠ [])
      (each : ∀ member ∈ members, IsElement member)
      (single : ∀ member ∈ members, IsMember member) :
      IsElement (.mk .negation [.mk .set members])

/-- The bodies that rules of the notation have. -/
def IsBody (body : Node) : Prop :=
  ∃ rows : List (List Node), rows ≠ [] ∧ body = choiceOf rows ∧
    ∀ row ∈ rows, ∀ node ∈ row, IsElement node

theorem allKinds_choiceOf {allowed : NodeKind → Prop} {rows : List (List Node)} :
    (choiceOf rows).AllKinds allowed ↔
      allowed .block ∧ ∀ row ∈ rows, allowed .alternative ∧ ∀ node ∈ row, node.AllKinds allowed := by
  simp [choiceOf, Node.allKinds_mk]

/-! ### References -/

theorem ofName_of_spelled {name : String} {initial : Char} {later : List Char}
    (spelled : name.toList = initial :: later) :
    RuleKind.ofName name = if Unicode.isUppercase initial then .lexer else .parser := by
  rw [RuleKind.ofName, spelled]

/-- A name that begins with an upper-case character refers to a token. -/
theorem reference_eq_token {name : String} {initial : Char} {later : List Char}
    (spelled : name.toList = initial :: later) (upper : Unicode.isUppercase initial = true) :
    Node.reference name = .mk (.terminal (.token name)) [] := by
  rw [Node.reference, ofName_of_spelled spelled, if_pos upper]
  rfl

/-- A name that begins with any other character refers to a rule. -/
theorem reference_eq_ruleRef {name : String} {initial : Char} {later : List Char}
    (spelled : name.toList = initial :: later) (other : Unicode.isUppercase initial = false) :
    Node.reference name = .mk (.ruleRef name) [] := by
  rw [Node.reference, ofName_of_spelled spelled, if_neg (by simp [other])]
  rfl

theorem IsIdentifier.exists_initial {name : String} (identifier : IsIdentifier name) :
    ∃ initial later, name.toList = initial :: later := by
  cases spelled : name.toList with
  | nil => exact absurd spelled identifier.ne_nil
  | cons initial later => exact ⟨initial, later, rfl⟩

/-- Every identifier is an element, of the kind that its first character tells. -/
theorem IsElement.reference {name : String} (identifier : IsIdentifier name) :
    IsElement (Node.reference name) := by
  obtain ⟨initial, later, spelled⟩ := identifier.exists_initial
  cases upper : Unicode.isUppercase initial with
  | true =>
      rw [reference_eq_token spelled upper]
      exact .token identifier spelled upper
  | false =>
      rw [reference_eq_ruleRef spelled upper]
      exact .ruleRef identifier spelled upper

theorem isAtomic_reference (name : String) : (Node.reference name).kind.isAtomic = true := by
  unfold Node.reference
  cases RuleKind.ofName name <;> rfl

/-! ### Kinds of elements -/

/-- Kinds of which the reader builds nodes: no bare sequences, and references by identifiers only. -/
def IsReadable : NodeKind → Prop
  | .sequence => False
  | .terminal (.token name) => IsIdentifier name
  | .ruleRef name => IsIdentifier name
  | _ => True

/-- The kinds of an element are those of references by identifiers, and kinds that name nothing. -/
theorem IsElement.allKinds {allowed : NodeKind → Prop} {node : Node} (element : IsElement node)
    (token : ∀ name, IsIdentifier name → RuleKind.ofName name = .lexer →
      allowed (.terminal (.token name)))
    (ruleRef : ∀ name, IsIdentifier name → RuleKind.ofName name = .parser → allowed (.ruleRef name))
    (other : ∀ kind, kind ≠ .sequence → (∀ name, kind ≠ .terminal (.token name)) →
      (∀ name, kind ≠ .ruleRef name) → allowed kind) : node.AllKinds allowed := by
  induction element with
  | literal | charSet | predicate | placeholder =>
      refine Node.allKinds_mk.mpr ⟨?_, nofun⟩
      apply other <;> simp
  | @token name _ _ identifier spelled upper =>
      refine Node.allKinds_mk.mpr ⟨token name identifier ?_, nofun⟩
      rw [ofName_of_spelled spelled, if_pos upper]
  | @ruleRef name _ _ identifier spelled lower =>
      refine Node.allKinds_mk.mpr ⟨ruleRef name identifier ?_, nofun⟩
      rw [ofName_of_spelled spelled, if_neg (by simp [lower])]
  | choice _ _ induction =>
      refine allKinds_choiceOf.mpr ⟨?_, fun row member => ⟨?_, induction row member⟩⟩ <;>
        apply other <;> simp
  | @quantified quantifier _ quantifies _ _ induction =>
      refine Node.allKinds_mk.mpr ⟨?_, ?_⟩
      · apply other
        · rintro rfl
          simp [NodeKind.isQuantifier] at quantifies
        · rintro _ rfl
          simp [NodeKind.isQuantifier] at quantifies
        · rintro _ rfl
          simp [NodeKind.isQuantifier] at quantifies
      · refine List.forall_mem_singleton.mpr (allKinds_choiceOf.mpr ⟨?_, fun row member =>
          ⟨?_, induction row member⟩⟩) <;> apply other <;> simp
  | range _ _ _ _ first second =>
      refine Node.allKinds_mk.mpr ⟨?_, by simp [first, second]⟩
      apply other <;> simp
  | negation _ _ _ inner =>
      refine Node.allKinds_mk.mpr ⟨?_, by simpa using inner⟩
      apply other <;> simp
  | negatedSet _ _ _ each =>
      refine Node.allKinds_mk.mpr
        ⟨?_, List.forall_mem_singleton.mpr (Node.allKinds_mk.mpr ⟨?_, each⟩)⟩ <;>
        apply other <;> simp

theorem IsElement.allKinds_isReadable {node : Node} (element : IsElement node) :
    node.AllKinds IsReadable := by
  refine element.allKinds (fun _ identifier _ => identifier) (fun _ identifier _ => identifier)
    fun kind bare token rule => ?_
  unfold IsReadable
  split
  · exact bare rfl
  · exact (token _ rfl).elim
  · exact (rule _ rfl).elim
  · trivial

/-- Kinds that name rules according to the namespaces of their names. -/
def IsFiled : NodeKind → Prop
  | .terminal (.token name) => RuleKind.ofName name = .lexer
  | .ruleRef name => RuleKind.ofName name = .parser
  | _ => True

/-- The reader makes a name a token or a rule reference according to its first character. -/
theorem IsElement.allKinds_isFiled {node : Node} (element : IsElement node) :
    node.AllKinds IsFiled := by
  refine element.allKinds (fun _ _ filed => filed) (fun _ _ filed => filed)
    fun kind _ token rule => ?_
  unfold IsFiled
  split
  · exact (token _ rfl).elim
  · exact (rule _ rfl).elim
  · trivial

/-- The reader builds no bare sequences. -/
theorem IsElement.allKinds_ne_sequence {node : Node} (element : IsElement node) :
    node.AllKinds (· ≠ .sequence) := by
  refine element.allKinds_isReadable.mono fun kind readable => ?_
  rintro rfl
  exact readable

/-! ### Atoms, ranges and negations -/

/-- An item of a text: names are identifiers, and a group holds the alternatives of a body. -/
def Item.Sound : Item → Prop
  | .leaf token => token.Named
  | .choice (.ok alternatives) => IsBody (Node.block alternatives)
  | .choice (.error _) => True
  | .set _ => True
  | .braces content => ∀ tree ∈ content, tree.Named

theorem sound_of_suffix {items rest : List Item} (sound : ∀ item ∈ items, item.Sound)
    (suffix : rest <:+ items) : ∀ item ∈ rest, item.Sound :=
  fun item member => sound item (suffix.subset member)

theorem isQuantifier_reference (name : String) :
    (Node.reference name).kind.isQuantifier = false := by
  unfold Node.reference
  cases RuleKind.ofName name <;> rfl

theorem IsBody.isElement {body : Node} (shaped : IsBody body) : IsElement body := by
  obtain ⟨rows, some, rfl, each⟩ := shaped
  exact .choice some each

theorem IsElement.isBody {node : Node} (element : IsElement node) (block : node.kind = .block) :
    IsBody node := by
  cases element with
  | choice some each => exact ⟨_, some, rfl, each⟩
  | quantified quantifies =>
      rw [Node.kind_mk] at block
      simp [block, NodeKind.isQuantifier] at quantifies
  | _ => simp at block

theorem isElement_of_readBareAtom {items rest : List Item} {node : Node}
    (sound : ∀ item ∈ items, item.Sound) (read : readBareAtom items = .ok (node, rest)) :
    IsElement node ∧ node.kind.isAtomic = true := by
  revert read
  fun_cases readBareAtom items <;> intro read <;>
    simp only [Except.ok.injEq, Prod.mk.injEq, reduceCtorEq] at read
  case case1 value _ => exact read.1 ▸ ⟨.literal value, rfl⟩
  case case2 value _ => exact read.1 ▸ ⟨.literal value.toString, rfl⟩
  case case3 name line after =>
    have identifier : IsIdentifier name := sound (.leaf (.identifier name line)) List.mem_cons_self
    exact read.1 ▸ ⟨.reference identifier, isAtomic_reference name⟩
  case case4 body _ => exact read.1 ▸ ⟨.charSet body, rfl⟩
  case case6 alternatives _ =>
    have shaped : IsBody (Node.block alternatives) :=
      sound (.choice (.ok alternatives)) List.mem_cons_self
    exact read.1 ▸ ⟨shaped.isElement, rfl⟩
  case case8 => exact read.1 ▸ ⟨.predicate, rfl⟩
  case case9 => exact read.1 ▸ ⟨.placeholder, rfl⟩

theorem isElement_of_readAtom {items rest : List Item} {node : Node}
    (sound : ∀ item ∈ items, item.Sound) (read : readAtom items = .ok (node, rest)) :
    IsElement node ∧ node.kind.isAtomic = true :=
  isElement_of_readBareAtom (sound_of_suffix sound (skipLabel_suffix items)) read

theorem isElement_of_readRange {items rest : List Item} {node : Node}
    (sound : ∀ item ∈ items, item.Sound) (read : readRange items = .ok (node, rest)) :
    IsElement node ∧ (node.kind = .range ∨ node.kind.isAtomic = true) := by
  obtain ⟨left, middle, first, ⟨_, rfl, _⟩ | ⟨_, right, second, rfl⟩⟩ := readRange_eq_ok.mp read
  · obtain ⟨element, plain⟩ := isElement_of_readAtom sound first
    exact ⟨element, .inr plain⟩
  · have behind_sound : ∀ item ∈ middle.drop 2, item.Sound := sound_of_suffix sound
      ((List.drop_suffix 2 middle).trans (shortens_of_readAtom first).suffix)
    obtain ⟨left_element, left_plain⟩ := isElement_of_readAtom sound first
    obtain ⟨right_element, right_plain⟩ := isElement_of_readAtom behind_sound second
    exact ⟨.range left_element right_element left_plain right_plain, .inl rfl⟩

theorem IsMember.isSetMember_eq {node : Node} (member : IsMember node) :
    isSetMember node = true := by
  cases member <;> rfl

theorem IsElement.isMember {node : Node} (element : IsElement node)
    (single : isSetMember node = true) : IsMember node := by
  cases element with
  | literal value => exact .literal value
  | charSet body => exact .charSet body
  | token => exact .token _
  | @quantified quantifier _ quantifies =>
      cases quantifier <;> simp [NodeKind.isQuantifier, isSetMember] at quantifies single
  | _ => simp [isSetMember, choiceOf] at single

theorem setMembers?_singletons {members : List Node}
    (single : ∀ member ∈ members, IsMember member) :
    setMembers? (choiceOf (members.map fun member => [member])).children = some members := by
  rw [choiceOf, Node.children_mk]
  induction members with
  | nil => rfl
  | cons member members induction =>
      rw [List.forall_mem_cons] at single
      have first : setMember? (.mk .alternative [member]) = some member := by
        simp [setMember?, single.1.isSetMember_eq]
      rw [List.map_cons, List.map_cons, setMembers?, first, induction single.2]

theorem setMember?_alternative {row : List Node} {member : Node}
    (found : setMember? (Node.alternative row) = some member) :
    row = [member] ∧ isSetMember member = true := by
  unfold setMember? at found
  split at found
  · rename_i only children
    split at found
    · rename_i single
      rw [Option.some.inj found] at children single
      exact ⟨children, single⟩
    · simp at found
  · simp at found

theorem setMembers?_alternatives {rows : List (List Node)} {members : List Node}
    (found : setMembers? (rows.map Node.alternative) = some members) :
    rows = members.map (fun member => [member]) ∧ ∀ member ∈ members, isSetMember member = true := by
  induction rows generalizing members with
  | nil =>
      simp only [List.map_nil, setMembers?, Option.some.injEq] at found
      simp [← found]
  | cons row rows induction =>
      simp only [List.map_cons, setMembers?] at found
      split at found
      · rename_i first others head tail
        obtain ⟨same_row, single⟩ := setMember?_alternative head
        obtain ⟨same_rows, each⟩ := induction tail
        rw [← Option.some.inj found]
        exact ⟨by rw [same_row, same_rows, List.map_cons], List.forall_mem_cons.mpr ⟨single, each⟩⟩
      · simp at found

theorem isElement_negated {node : Node} (element : IsElement node)
    (plain : node.kind = .range ∨ node.kind.isAtomic = true) :
    IsElement (.mk .negation [negated node]) := by
  unfold negated
  split
  · rename_i block
    obtain ⟨rows, some, rfl, each⟩ := element.isBody block
    split
    · rename_i members found
      obtain ⟨same, single⟩ := setMembers?_alternatives found
      have elements : ∀ member ∈ members, IsElement member := fun member present =>
        each [member] (same ▸ List.mem_map_of_mem present) member List.mem_cons_self
      refine .negatedSet ?_ elements fun member present =>
        (elements member present).isMember (single member present)
      rintro rfl
      exact some same
    · rename_i none
      refine .negation element plain fun members single same => ?_
      rw [same, setMembers?_singletons single] at none
      cases none
  · rename_i other
    refine .negation element plain fun members _ same => other ?_
    rw [same]
    rfl

/-! ### Elements and alternatives -/

theorem isBody_operand {node : Node} (element : IsElement node) : IsBody (operand node) := by
  unfold operand
  split
  · exact element.isBody (by assumption)
  · exact ⟨[[node]], by simp, rfl, by simpa using element⟩

theorem IsBody.quantified {body : Node} (shaped : IsBody body) {quantifier : NodeKind}
    (quantifies : quantifier.isQuantifier = true) : IsElement (.mk quantifier [body]) := by
  obtain ⟨rows, some, rfl, each⟩ := shaped
  exact .quantified quantifies some each

theorem isElement_quantify {node : Node} (element : IsElement node) (items : List Item) :
    IsElement (quantify node items).1 := by
  have quantifies {symbol : Char} {plus : Prop} [Decidable plus] {kind : Bool → NodeKind}
      (next : (if symbol = '?' then some NodeKind.optional
        else if symbol = '*' then some .star
        else if plus then some .plus else none) = some kind) (greedy : Bool) :
      (kind greedy).isQuantifier = true := by
    split at next
    · exact Option.some.inj next ▸ rfl
    · split at next
      · exact Option.some.inj next ▸ rfl
      · split at next
        · exact Option.some.inj next ▸ rfl
        · simp at next
  fun_induction quantify node items with
  | case1 => exact element
  | case2 _ _ _ _ _ _ _ sign induction =>
      exact induction ((isBody_operand element).quantified (quantifies sign false))
  | case3 _ _ _ _ _ _ _ _ _ sign induction =>
      exact induction ((isBody_operand element).quantified (quantifies sign true))
  | case4 _ _ _ _ _ _ _ sign => exact (isBody_operand element).quantified (quantifies sign true)
  | case5 => exact element

theorem isElement_of_readElement {items rest : List Item} {node : Node}
    (sound : ∀ item ∈ items, item.Sound) (read : readElement items = .ok (node, rest)) :
    IsElement node := by
  obtain ⟨inner, middle, ranged, quantified⟩ := readElement_eq_ok.mp read
  obtain ⟨element, plain⟩ :=
    isElement_of_readRange (sound_of_suffix sound (ite_drop_suffix _ 1 items)) ranged
  have operand : IsElement
      (if startsWithMark '~' items then .mk .negation [negated inner] else inner) := by
    split
    · exact isElement_negated element plain
    · exact element
  have whole := isElement_quantify operand middle
  rwa [quantified] at whole

theorem isElement_of_readElements {ends : List Item → Bool} {items rest : List Item}
    {nodes : List Node} (sound : ∀ item ∈ items, item.Sound)
    (read : readElements ends items = .ok (nodes, rest)) : ∀ node ∈ nodes, IsElement node := by
  fun_induction readElements ends items generalizing nodes rest with
  | case1 | case2 | case3 => simp_all
  | case4 items _ node after first more last later induction =>
      simp only [Except.ok.injEq, Prod.mk.injEq] at read
      rw [← read.1]
      have after_sound := sound_of_suffix sound (shortens_of_readElement first).suffix
      exact List.forall_mem_cons.mpr
        ⟨isElement_of_readElement sound first, induction after_sound later⟩

theorem isBody_single {row : List Node} (each : ∀ node ∈ row, IsElement node) :
    IsBody (Node.block [Node.alternative row]) :=
  ⟨[row], by simp, rfl, by simpa using each⟩

theorem IsBody.cons {row alternatives : List Node} (each : ∀ node ∈ row, IsElement node)
    (shaped : IsBody (Node.block alternatives)) :
    IsBody (Node.block (Node.alternative row :: alternatives)) := by
  obtain ⟨rows, _, same, later⟩ := shaped
  refine ⟨row :: rows, by simp, ?_, List.forall_mem_cons.mpr ⟨each, later⟩⟩
  simp only [choiceOf, Node.block, Node.mk.injEq, true_and] at same ⊢
  rw [same]
  rfl

theorem isBody_of_readChoice {items : List Item} {alternatives : List Node}
    (sound : ∀ item ∈ items, item.Sound) (read : readChoice items = .ok alternatives) :
    IsBody (Node.block alternatives) := by
  fun_induction readChoice items generalizing alternatives with
  | case1 => simp at read
  | case2 items nodes elements =>
      simp only [Except.ok.injEq] at read
      exact read ▸ isBody_single (isElement_of_readElements sound elements)
  | case3 => simp at read
  | case4 items nodes bar after elements others later induction =>
      simp only [Except.ok.injEq] at read
      have after_sound := sound_of_suffix sound
        ((List.suffix_cons bar after).trans (suffix_of_readElements elements))
      exact read ▸ (induction after_sound later).cons (isElement_of_readElements sound elements)

theorem TokenTree.items_eq (trees : List TokenTree) :
    TokenTree.items trees = trees.map TokenTree.item := by
  induction trees with
  | nil => rfl
  | cons tree trees induction => rw [TokenTree.items, induction, List.map_cons]

theorem TokenTree.Named.sound {tree : TokenTree} (named : tree.Named) : tree.item.Sound := by
  induction named with
  | leaf named => exact named
  | @group delimiter content each induction =>
      have content_sound : ∀ item ∈ TokenTree.items content, item.Sound := by
        rw [TokenTree.items_eq]
        exact List.forall_mem_map.mpr induction
      cases delimiter with
      | parenthesis =>
          simp only [TokenTree.item]
          cases read : readChoice (TokenTree.items content) with
          | error => trivial
          | ok alternatives => exact isBody_of_readChoice content_sound read
      | bracket => trivial
      | brace => exact each

theorem sound_items {trees : List TokenTree} (named : ∀ tree ∈ trees, tree.Named) :
    ∀ item ∈ TokenTree.items trees, item.Sound := by
  rw [TokenTree.items_eq]
  exact List.forall_mem_map.mpr fun tree member => (named tree member).sound

end Notation
end Rulebook
