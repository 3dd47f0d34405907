import Rulebook.Catalogue.Entry
import Rulebook.Listing.Paragraph
import Rulebook.Proofs.Grammar.Address
import Rulebook.Proofs.Rendering.Requests

/-!
# Groups in parentheses

A group of several nodes is put in parentheses wherever its signs could be taken for those of its
surroundings: under an operator and beside other elements, also through groups around single nodes.
The group that makes up a whole rule stands without them.
-/

namespace Rulebook

/-- Is the request made for a group that is to be put in parentheses?  Only groups have an answer. -/
def Request.grouping? : Request → Option Bool
  | block grouping _ | set grouping _ | alternative grouping _ => some grouping
  | _ => none

/-- Is it a choice, a set or an alternative? -/
def NodeKind.Groups (kind : NodeKind) : Prop :=
  kind = block ∨ kind = set ∨ kind = alternative

theorem NodeKind.isGroup_iff {kind : NodeKind} : kind.isGroup = true ↔ kind.Groups := by
  cases kind <;> simp [isGroup, Groups]

/-- A group is no operator. -/
theorem NodeKind.Groups.isOperator_eq {kind : NodeKind} (groups : kind.Groups) :
    kind.isOperator = false := by
  rcases groups with rfl | rfl | rfl <;> rfl

namespace Node

/-- Does a node lead to another one through groups around single nodes only?  The address says where the
other node is found. -/
inductive Wraps : (outer : Node) → (address : List Nat) → (inner : Node) → Prop where
  /-- The node itself. -/
  | here (node : Node) : Wraps node [] node
  /-- What the single node in a group leads to. -/
  | group {kind : NodeKind} {only inner : Node} {address : List Nat}
      (groups : kind.Groups) (below : Wraps only address inner) :
      Wraps (mk kind [only]) (0 :: address) inner

/-- Do the children of a node stand under a quantifier, a negation or a range, or beside other elements
of an alternative? -/
def SetsApart (parent : Node) : Prop :=
  match parent.kind with
  | .optional _ | .plus _ | .star _ | .negation | .range => True
  | .alternative => 1 < parent.children.length
  | _ => False

/-- The position of the node at an address below a node at a position. -/
def positionAt (node : Node) (position : Position) : List Nat → Position
  | [] => position
  | index :: address =>
      (node.children[index]?.map fun child =>
        child.positionAt (position.below node.kind node.children) address).getD position

theorem positionAt_cons {node child : Node} {index : Nat} (found : node.children[index]? = some child)
    (position : Position) (address : List Nat) : node.positionAt position (index :: address) =
      child.positionAt (position.below node.kind node.children) address := by
  rw [positionAt, found, Option.map_some, Option.getD_some]

theorem positionAt_append {body part : Node} {address : List Nat}
    (found : body.at? address = some part) (position : Position) (below : List Nat) :
    body.positionAt position (address ++ below) =
      part.positionAt (body.positionAt position address) below := by
  induction address generalizing body position with
  | nil =>
      obtain rfl := Option.some.inj found
      rfl
  | cons index address induction =>
      obtain ⟨child, listed, later⟩ := at?_cons_eq_some.mp found
      rw [List.cons_append, positionAt_cons listed, positionAt_cons listed]
      exact induction later _

/-- The request of the node at an address is found at the rank of the address. -/
theorem getElem?_requests {body part : Node} {address : List Nat}
    (found : body.at? address = some part) (position : Position) :
    (body.requests position)[body.rank address]? =
      some (part.request (body.positionAt position address)) := by
  induction address generalizing body position with
  | nil =>
      obtain ⟨kind, children⟩ := body
      obtain rfl : mk kind children = part := Option.some.inj found
      have before : (children.flatMap (requests (position.below kind children))).length =
          (mk kind children).rank [] := by
        rw [rank, List.length_flatMap, List.length_flatMap]
        simp only [length_requests, children_mk]
      rw [requests_mk, ← before, List.getElem?_append_right (Nat.le_refl _), Nat.sub_self]
      rfl
  | cons index address induction =>
      obtain ⟨kind, children⟩ := body
      obtain ⟨child, listed, below⟩ := at?_cons_eq_some.mp found
      have inside : (children.flatMap (requests (position.below kind children)))[
          ((children.take index).flatMap postorder).length + child.rank address]? =
            some (part.request (child.positionAt (position.below kind children) address)) :=
        getElem?_flatMap (length_requests _) listed (induction below _)
      rw [positionAt_cons listed, rank_cons listed, children_mk, requests_mk,
        List.getElem?_append_left (List.getElem?_eq_some_iff.mp inside).1]
      exact inside

/-- On the way through groups around single nodes the position stays the same. -/
theorem Wraps.positionAt_eq {outer inner : Node} {address : List Nat}
    (wraps : outer.Wraps address inner) {position : Position} (free : position.inChoice = false) :
    outer.positionAt position address = position := by
  induction wraps with
  | here => rfl
  | @group kind only inner address groups below induction =>
      have same : position.below kind [only] = position := by
        obtain ⟨sole, inChoice⟩ := position
        subst free
        simp [Position.below, groups.isOperator_eq]
      have listed : (mk kind [only]).children[0]? = some only := rfl
      rw [positionAt_cons listed, kind_mk, children_mk, same, induction]

theorem Wraps.at?_eq {outer inner : Node} {address : List Nat} (wraps : outer.Wraps address inner) :
    outer.at? address = some inner := by
  induction wraps with
  | here => rfl
  | @group kind only _ _ _ _ induction =>
      have listed : (mk kind [only]).children[0]? = some only := rfl
      rw [at?_cons listed, induction]

/-- Children under an operator or beside other elements are not the only content of the rule, and their
parent is no choice. -/
theorem SetsApart.below {parent : Node} (apart : parent.SetsApart) (position : Position) :
    position.below parent.kind parent.children = ⟨false, false⟩ := by
  obtain ⟨kind, children⟩ := parent
  cases kind with
  | optional | plus | star | negation | range =>
      simp [Position.below, NodeKind.isOperator, NodeKind.isChoice]
  | alternative =>
      have several : 1 < children.length := apart
      simp [Position.below, NodeKind.isChoice, Nat.not_le.mpr several]
  | _ => exact apart.elim

theorem grouping?_request {node : Node} (groups : node.kind.Groups) {position : Position}
    (free : position.inChoice = false) :
    (node.request position).grouping? = some (node.needsGrouping && !position.sole) := by
  obtain ⟨kind, children⟩ := node
  rw [kind_mk] at groups
  rcases groups with rfl | rfl | rfl
  · rfl
  · rfl
  · simp [request, Request.grouping?, free]

theorem needsGrouping_of_several {node : Node} (groups : node.kind.Groups)
    (several : 1 < node.children.length) : node.needsGrouping = true := by
  obtain ⟨kind, children⟩ := node
  rw [kind_mk, ← NodeKind.isGroup_iff] at groups
  rw [children_mk] at several
  simp [needsGrouping, groups, several]

/-- A group that is reached through groups around single nodes is to be put in parentheses if it needs
them and the way to it does not begin with the whole rule. -/
theorem grouping?_of_wraps {body start group : Node} {address below : List Nat}
    (found : body.at? address = some start)
    (free : (body.positionAt Position.body address).inChoice = false)
    (wraps : start.Wraps below group) (groups : group.kind.Groups) :
    ((body.requests Position.body)[body.rank (address ++ below)]?).bind Request.grouping? =
      some (group.needsGrouping && !(body.positionAt Position.body address).sole) := by
  have reached : body.at? (address ++ below) = some group := by
    rw [at?_append, found, Option.bind_some, wraps.at?_eq]
  rw [getElem?_requests reached, positionAt_append found, wraps.positionAt_eq free, Option.bind_some,
    grouping?_request groups free]

end Node

/-! ### Parentheses -/

/-- Does a renderer enclose every group of several pieces that is to be put in parentheses? -/
def Renderer.Encloses {State Piece : Type} (renderer : Renderer State Piece)
    (enclosed : Piece → Prop) : Prop :=
  ∀ pieces state, 1 < pieces.length →
    enclosed ((renderer.block true pieces).run state).1 ∧
      enclosed ((renderer.set true pieces).run state).1 ∧
        enclosed ((renderer.alternative true pieces).run state).1

theorem Listing.encloses_renderer (grammar : Grammar) (settings : Settings) :
    (Listing.renderer grammar settings).Encloses fun text => ∃ inner, text = '(' :: inner ++ [')'] := by
  intro pieces state several
  have grouped (text : Piece) : ∃ inner, group true pieces.length text = '(' :: inner ++ [')'] :=
    ⟨text, by simp [group, several]⟩
  have chosen : ∃ inner, choice true pieces = '(' :: inner ++ [')'] := by
    obtain ⟨inner, same⟩ := grouped (join [' ', '|', ' '] pieces)
    exact ⟨inner, by simp [choice, several, same]⟩
  exact ⟨chosen, chosen, grouped _⟩

theorem Catalogue.encloses_renderer (grammar : Grammar) (settings : Settings) :
    (Catalogue.renderer grammar settings).Encloses fun piece =>
      ∃ inner, piece.steps = .element "symbol" [.cdata "("] :: inner ++
        [.element "symbol" [.cdata ")"]] := by
  intro pieces state several
  have grouped (steps : List Step) :
      ∃ inner, Piece.group true pieces.length steps = .element "symbol" [.cdata "("] :: inner ++
        [.element "symbol" [.cdata ")"]] :=
    ⟨steps, by simp [Piece.group, several, Step.symbol]⟩
  exact ⟨grouped _, grouped _, grouped _⟩

/-- A rule that passes the check of operands makes the same requests to every renderer, and the rank of
an address is the place of the request of the node there.  Go down from an operand, or from one of
several elements of an alternative, through groups around single nodes: if this leads to a group of
several nodes, then that group is to be put in parentheses, which the listing and the catalogue do.  A
group that is reached so from the whole body is not. -/
theorem Rule.requests_group {rule : Rule}
    (complete : rule.body.firstArityViolation? rule.name = none) :
    ∃ requests : List Request,
      (∀ (State Piece : Type) (renderer : Renderer State Piece) (state : State),
        ∃ piece reached, (rule.render renderer).run state = .ok (piece, reached) ∧
          (rule.render renderer.recording).run ([], state) =
            .ok (piece, (.enter rule.kind rule.name :: requests ++ [.rule 1 rule.name rule.line],
              reached))) ∧
        (∀ address node, rule.body.at? address = some node →
          rule.body.postorder[rule.body.rank address]? = some node ∧
            (requests[rule.body.rank address]?).bind Request.shape? = some node.shape) ∧
          (∀ above parent index operand below group, rule.body.at? above = some parent →
            parent.SetsApart → parent.children[index]? = some operand →
              operand.Wraps below group → group.kind.Groups → 1 < group.children.length →
                (requests[rule.body.rank (above ++ index :: below)]?).bind Request.grouping? =
                  some true) ∧
            (∀ below group, rule.body.Wraps below group → group.kind.Groups →
              (requests[rule.body.rank below]?).bind Request.grouping? = some false) ∧
              ∀ grammar settings,
                (Listing.renderer grammar settings).Encloses
                    (fun text => ∃ inner, text = '(' :: inner ++ [')']) ∧
                  (Catalogue.renderer grammar settings).Encloses
                    fun piece => ∃ inner, piece.steps =
                      .element "symbol" [.cdata "("] :: inner ++ [.element "symbol" [.cdata ")"]] := by
  have operands := (Node.firstArityViolation?_eq_none rule.name).mp complete
  refine ⟨rule.body.requests Position.body, fun State Piece renderer state => ?_,
    fun address node found => ?_,
    fun above parent index operand below group found apart listed wraps groups several => ?_,
    fun below group wraps groups => ?_, fun grammar settings =>
      ⟨Listing.encloses_renderer grammar settings, Catalogue.encloses_renderer grammar settings⟩⟩
  · exact renderer.exists_run_recording operands (Rule.trace_eq operands) state
  · rw [Node.getElem?_requests found, Option.bind_some,
      Node.shape?_request (operands.at? found)]
    exact ⟨Node.getElem?_postorder found, rfl⟩
  · have reached : rule.body.at? (above ++ [index]) = some operand := by
      rw [Node.at?_append, found, Option.bind_some, Node.at?_cons listed, Node.at?_nil]
    have position : rule.body.positionAt Position.body (above ++ [index]) = ⟨false, false⟩ := by
      rw [Node.positionAt_append found, Node.positionAt_cons listed, apart.below]
      rfl
    have asked := Node.grouping?_of_wraps reached (position ▸ rfl) wraps groups
    rw [position, Node.needsGrouping_of_several groups several, List.append_assoc] at asked
    exact asked
  · have asked := Node.grouping?_of_wraps (Node.at?_nil rule.body) rfl wraps groups
    rw [List.nil_append] at asked
    rw [asked]
    simp [Node.positionAt, Position.body]

/-- A rule with a repeated choice that stands in two groups, and a group of elements behind it. -/
def wrappedChoice : Rule where
  name := "r"
  kind := .parser
  line := 1
  body := Node.block [Node.alternative [
    .mk (.plus true) [Node.block [Node.alternative [Node.block [
      Node.alternative [Node.literal "a"], Node.alternative [Node.literal "b"]]]]],
    Node.block [Node.alternative [Node.token "C", Node.leaf (.ruleRef "d")]]]]

/-- The choice and the elements behind it are put in parentheses, the alternative that makes up the rule
is not. -/
theorem requests_group_wrappedChoice :
    wrappedChoice.body.firstArityViolation? "r" = none ∧
      ∃ requests reached, (wrappedChoice.render recorder.recording).run ([], []) =
          .ok ((), (.enter .parser "r" :: requests ++ [.rule 1 "r" 1], reached)) ∧
        (requests[4]?).bind Request.grouping? = some true ∧
          (requests[10]?).bind Request.grouping? = some true ∧
            (requests[12]?).bind Request.grouping? = some false := by
  have complete : wrappedChoice.body.firstArityViolation? wrappedChoice.name = none := by
    decide +kernel
  obtain ⟨requests, made, -, apart, whole, -⟩ := Rule.requests_group complete
  obtain ⟨_, reached, -, recorded⟩ := made _ _ recorder []
  refine ⟨complete, requests, reached, recorded, ?_, ?_, ?_⟩
  · apply apart [0, 0] _ 0 _ [0, 0] _ rfl trivial rfl
    · exact .group (.inl rfl) (.group (.inr (.inr rfl)) (.here _))
    · exact .inl rfl
    · decide
  · apply apart [0] _ 1 _ [0] _ rfl (by decide : 1 < 2) rfl
    · exact .group (.inl rfl) (.here _)
    · exact .inr (.inr rfl)
    · decide
  · exact whole [0] _ (.group (.inl rfl) (.here _)) (.inr (.inr rfl))

end Rulebook
