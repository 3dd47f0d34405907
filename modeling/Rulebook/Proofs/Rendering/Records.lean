import Mathlib.Data.List.TakeWhile
import Rulebook.Proofs.Rendering.Requests
import Rulebook.Proofs.Text.Escape

/-!
# Records of requests

The record of a rule has a line for each request.  If no name of a token begins with a quote, then the
line of a request tells the kind of its node and how many children the node has, and the record tells
the whole rule.
-/

namespace Rulebook

/-- Is the kind not that of a token whose name begins with a quote? -/
def NodeKind.isPlain : NodeKind → Bool
  | terminal (.token name) => name.toList.head? != some '\''
  | _ => true

/-- Does no token in a body have a name that begins with a quote? -/
def Node.HasPlainTokens (body : Node) : Prop :=
  body.AllKinds fun kind => kind.isPlain = true

instance (body : Node) : Decidable body.HasPlainTokens :=
  inferInstanceAs (Decidable (body.AllKinds fun kind => kind.isPlain = true))

/-! ### Words of a line -/

/-- The first word of a line, and what follows the blank behind it. -/
def cutWord (text : List Char) : List Char × List Char :=
  (text.takeWhile (· ≠ ' '), (text.dropWhile (· ≠ ' ')).tail)

theorem cutWord_append {word : List Char} (whole : ' ' ∉ word) (rest : List Char) :
    cutWord (word ++ ' ' :: rest) = (word, rest) := by
  have each : ∀ character ∈ word, decide (character ≠ ' ') = true := fun character member =>
    decide_eq_true fun blank => whole (blank ▸ member)
  rw [cutWord, List.takeWhile_append_of_pos each, List.dropWhile_append_of_pos each]
  simp

theorem blank_not_mem_toDigits (value : Nat) : ' ' ∉ Nat.toDigits 10 value := by
  intro member
  have digit := Nat.isDigit_of_mem_toDigits (by decide) (by decide) member
  revert digit
  decide

theorem toList_toString (value : Nat) : (toString value).toList = Nat.toDigits 10 value := by
  rw [Nat.toString_eq_ofList_toDigits, String.toList_ofList]

namespace Request

/-! ### Lines read back -/

/-- The terminal that is written so. -/
def readTerminal : List Char → Terminal
  | '\'' :: body => .literal (String.ofList (Text.unescape body.dropLast))
  | name => .token (String.ofList name)

theorem readTerminal_written {shown : Terminal}
    (plain : (NodeKind.terminal shown).isPlain = true) :
    readTerminal shown.written.toList = shown := by
  cases shown with
  | literal value =>
      rw [Terminal.written, Text.toList_quotedLiteral, readTerminal, List.dropLast_concat,
        Text.unescape_escapeCharacters .quote, String.ofList_toList]
  | token name =>
      rw [Terminal.written, readTerminal, String.ofList_toList]
      intro rest quoted
      rw [NodeKind.isPlain, quoted] at plain
      simp at plain

/-- The kind and the number of children that the first word of a line and the rest of the line
tell. -/
def shapeOfWords (word : String) (rest : List Char) : Option (NodeKind × Nat) :=
  let flag := rest == ['t', 'r', 'u', 'e']
  let count := Nat.ofDigitChars 10 (cutWord rest).2 0
  match word with
  | "optional" => some (.optional flag, 1)
  | "plus" => some (.plus flag, 1)
  | "star" => some (.star flag, 1)
  | "not" => some (.negation, 1)
  | "range" => some (.range, 2)
  | "block" => some (.block, count)
  | "set" => some (.set, count)
  | "alt" => some (.alternative, count)
  | "sequence" => some (.sequence, Nat.ofDigitChars 10 rest 0)
  | "terminal" => some (.terminal (readTerminal rest), 0)
  | "rule_ref" => some (.ruleRef (String.ofList rest), 0)
  | "chars_set" => some (.charSet (String.ofList rest), 0)
  | "root" => some (.placeholder, 0)
  | "pred" => some (.predicate, 0)
  | _ => none

/-- The kind and the number of children of the node that a line tells. -/
def readShape (text : String) : Option (NodeKind × Nat) :=
  shapeOfWords (String.ofList (cutWord text.toList).1) (cutWord text.toList).2

theorem readShape_append {opening : String} (word : String)
    (opens : opening.toList = word.toList ++ [' ']) (whole : ' ' ∉ word.toList) (rest : String) :
    readShape (opening ++ rest) = shapeOfWords word rest.toList := by
  have cut : cutWord (opening ++ rest).toList = (word.toList, rest.toList) := by
    rw [String.toList_append, opens, List.append_assoc]
    exact cutWord_append whole rest.toList
  rw [readShape, cut, String.ofList_toList]

theorem flag_eq_true (value : Bool) : ((flag value).toList == ['t', 'r', 'u', 'e']) = value := by
  cases value <;> rfl

/-- The number of pieces is the second argument of a request that may be grouped. -/
theorem ofDigitChars_cutWord (grouping : Bool) (count : Nat) :
    Nat.ofDigitChars 10 (cutWord (flag grouping ++ (" " ++ toString count)).toList).2 0 = count := by
  have whole : ' ' ∉ (flag grouping).toList := by
    cases grouping <;> decide
  rw [String.toList_append, String.toList_append, toList_toString]
  exact (cutWord_append whole _).symm ▸ Nat.ofDigitChars_ten_toDigits

/-- The line of a request tells the kind of its node and how many children the node has. -/
theorem readShape_line {request : Request}
    (plain : ∀ shape ∈ request.shape?, shape.1.isPlain = true) :
    readShape request.line = request.shape? := by
  cases request with
  | enter kind name =>
      rw [line, String.append_assoc, String.append_assoc, readShape_append "enter" rfl (by decide)]
      rfl
  | rule count name line =>
      rw [Request.line, String.append_assoc, String.append_assoc, String.append_assoc,
        String.append_assoc, readShape_append "rule" rfl (by decide)]
      rfl
  | optional greedy =>
      rw [line, readShape_append "optional" rfl (by decide), shapeOfWords, flag_eq_true]
      rfl
  | plus greedy =>
      rw [line, readShape_append "plus" rfl (by decide), shapeOfWords, flag_eq_true]
      rfl
  | star greedy =>
      rw [line, readShape_append "star" rfl (by decide), shapeOfWords, flag_eq_true]
      rfl
  | block grouping count =>
      rw [line, String.append_assoc, String.append_assoc, readShape_append "block" rfl (by decide),
        shapeOfWords, ofDigitChars_cutWord]
      rfl
  | set grouping count =>
      rw [line, String.append_assoc, String.append_assoc, readShape_append "set" rfl (by decide),
        shapeOfWords, ofDigitChars_cutWord]
      rfl
  | alternative grouping count =>
      rw [line, String.append_assoc, String.append_assoc, readShape_append "alt" rfl (by decide),
        shapeOfWords, ofDigitChars_cutWord]
      rfl
  | sequence count =>
      rw [line, readShape_append "sequence" rfl (by decide), shapeOfWords, toList_toString,
        Nat.ofDigitChars_ten_toDigits]
      rfl
  | terminal shown =>
      rw [line, readShape_append "terminal" rfl (by decide), shapeOfWords,
        readTerminal_written (plain _ rfl)]
      rfl
  | ruleRef name =>
      rw [line, readShape_append "rule_ref" rfl (by decide), shapeOfWords, String.ofList_toList]
      rfl
  | charSet body =>
      rw [line, readShape_append "chars_set" rfl (by decide), shapeOfWords, String.ofList_toList]
      rfl
  | negation | range | placeholder | predicate => rfl

/-- The name and the line of the rule that a request closes, as its line tells them. -/
def readClosing (text : String) : String × Nat :=
  let ends := cutWord (cutWord (cutWord text.toList).2).2.reverse
  (String.ofList ends.2.reverse, Nat.ofDigitChars 10 ends.1.reverse 0)

/-- The line of a closing request tells the name and the line of the rule: the name ends at the last
blank, since digits follow. -/
theorem readClosing_line (count : Nat) (name : String) (line : Nat) :
    readClosing (rule count name line).line = (name, line) := by
  have written : (rule count name line).line.toList = "rule".toList ++ ' ' ::
      (Nat.toDigits 10 count ++ ' ' :: (name.toList ++ ' ' :: Nat.toDigits 10 line)) := by
    rw [Request.line]
    simp only [String.toList_append, toList_toString, List.append_assoc]
    rfl
  have backwards : (name.toList ++ ' ' :: Nat.toDigits 10 line).reverse =
      (Nat.toDigits 10 line).reverse ++ ' ' :: name.toList.reverse := by
    simp
  have digits : ' ' ∉ (Nat.toDigits 10 line).reverse := by
    rw [List.mem_reverse]
    exact blank_not_mem_toDigits line
  rw [readClosing, written, cutWord_append (by decide), cutWord_append (blank_not_mem_toDigits count),
    backwards, cutWord_append digits]
  dsimp only
  rw [List.reverse_reverse, List.reverse_reverse, String.ofList_toList, Nat.ofDigitChars_ten_toDigits]

end Request

/-! ### Records read back -/

/-- The record of a rule: the lines of all requests that are made when it is rendered. -/
def Rule.record (rule : Rule) : Except MissingOperand (List String) :=
  rule.trace.map (List.map Request.line)

/-- The name, the line and the body of a rule, as its record tells them. -/
def readRecord (record : List String) : Option (String × Nat × Node) :=
  match record.getLast?, (record.filterMap Request.readShape).foldl Node.push [] with
  | some last, [body] =>
      some ((Request.readClosing last).1, (Request.readClosing last).2, body)
  | _, _ => none

theorem filterMap_readShape {body : Node} (plain : body.HasPlainTokens) {requests : List Request}
    (asked : Node.AskedBy [body] requests) :
    (requests.map Request.line).filterMap Request.readShape = body.postorder.map Node.shape := by
  rw [Node.AskedBy, List.flatMap_singleton] at asked
  have each : ∀ request ∈ requests, (Request.readShape ∘ Request.line) request = request.shape? := by
    intro request member
    refine Request.readShape_line fun shape told => ?_
    have listed : request.shape? ∈ (body.postorder.map Node.shape).map some :=
      asked ▸ List.mem_map_of_mem member
    rw [Option.mem_def.mp told] at listed
    obtain ⟨_, shapes, same⟩ := List.mem_map.mp listed
    obtain ⟨part, inside, rfl⟩ := List.mem_map.mp shapes
    rw [← Option.some.inj same]
    exact plain part (Node.mem_postorder.mp inside)
  calc (requests.map Request.line).filterMap Request.readShape
      = requests.filterMap Request.shape? := by
        rw [List.filterMap_map, List.filterMap_congr each]
    _ = (requests.map Request.shape?).filterMap id := by
        rw [List.filterMap_map, Function.id_comp]
    _ = body.postorder.map Node.shape := by
        rw [asked, List.filterMap_map, Function.id_comp, List.filterMap_some]

/-- The record of a rule tells the rule, already without the line of the announcement. -/
theorem readRecord_tail {rule : Rule} (plain : rule.body.HasPlainTokens) {requests : List Request}
    (asked : Node.AskedBy [rule.body] requests) :
    readRecord ((requests ++ [Request.rule 1 rule.name rule.line]).map Request.line) =
      some (rule.name, rule.line, rule.body) := by
  have closes : Request.readShape (Request.rule 1 rule.name rule.line).line = none :=
    Request.readShape_line nofun
  rw [List.map_append, List.map_singleton, readRecord, List.getLast?_concat, List.filterMap_append,
    filterMap_readShape plain asked, List.filterMap_cons_none closes, List.filterMap_nil,
    List.append_nil, Node.foldl_push_postorder]
  dsimp only
  rw [Request.readClosing_line]

/-- A rule that passes the check of operands is announced once, then every node of its body makes one
request, the nodes in postorder, and in the end the rule is closed, whatever the renderer.  If the
lines of these requests are the same for two such rules without token names that begin with a quote,
already without the lines of the announcements, then the names, lines and bodies of the rules are the
same. -/
theorem Rule.requests_tell_rule {rule : Rule}
    (complete : rule.body.firstArityViolation? rule.name = none) :
    ∃ requests : List Request,
      rule.trace = .ok (.enter rule.kind rule.name :: requests ++
          [.rule 1 rule.name rule.line]) ∧
        requests.map Request.shape? =
            rule.body.postorder.map (fun node => some (node.kind, node.children.length)) ∧
          (∀ (State Piece : Type) (renderer : Renderer State Piece) (state : State),
            ∃ piece reached, (rule.render renderer).run state = .ok (piece, reached) ∧
              (rule.render renderer.recording).run ([], state) =
                .ok (piece, (.enter rule.kind rule.name :: requests ++
                  [.rule 1 rule.name rule.line], reached))) ∧
            (rule.body.HasPlainTokens → ∀ other : Rule,
              other.body.firstArityViolation? other.name = none → other.body.HasPlainTokens →
                rule.record.map List.tail = other.record.map List.tail →
                  rule.name = other.name ∧ rule.line = other.line ∧ rule.body = other.body) := by
  have operands := (Node.firstArityViolation?_eq_none rule.name).mp complete
  obtain ⟨requests, trace, asked⟩ := Rule.exists_trace operands
  refine ⟨requests, trace, ?_, fun State Piece renderer state => ?_,
    fun plain other other_complete other_plain same => ?_⟩
  · rw [Node.AskedBy, List.flatMap_singleton, List.map_map] at asked
    exact asked
  · exact renderer.exists_run_recording operands trace state
  · have other_operands := (Node.firstArityViolation?_eq_none other.name).mp other_complete
    obtain ⟨other_requests, other_trace, other_asked⟩ := Rule.exists_trace other_operands
    rw [Rule.record, Rule.record, trace, other_trace] at same
    have lines : (requests ++ [Request.rule 1 rule.name rule.line]).map Request.line =
        (other_requests ++ [Request.rule 1 other.name other.line]).map Request.line :=
      Except.ok.inj same
    have told := readRecord_tail plain asked
    rw [lines, readRecord_tail other_plain other_asked] at told
    simpa [eq_comm] using told

/-- A rule that refers to a token or matches a range of characters and a last part. -/
def tokenOrRange (last : Node) : Rule where
  name := "r"
  kind := .parser
  line := 3
  body := Node.block [
    Node.alternative [.mk (.optional true) [Node.token "A"]],
    Node.alternative [.mk .range [Node.literal "a", Node.literal "z"], last]]

/-- The record of a rule shows whether a part is a token or a spelling. -/
theorem requests_tell_tokenOrRange :
    (tokenOrRange (Node.token "B")).body.firstArityViolation? "r" = none ∧
      (∃ requests, (tokenOrRange (Node.token "B")).trace =
          .ok (.enter .parser "r" :: requests ++ [.rule 1 "r" 3]) ∧ requests.length = 9) ∧
        (tokenOrRange (Node.token "B")).record.map List.tail ≠
          (tokenOrRange (Node.literal "B")).record.map List.tail := by
  let rule := tokenOrRange (Node.token "B")
  have complete : rule.body.firstArityViolation? rule.name = none := by
    decide +kernel
  obtain ⟨requests, trace, asked, -, tell⟩ := Rule.requests_tell_rule complete
  refine ⟨complete, ⟨requests, trace, ?_⟩, fun same => ?_⟩
  · have counted := congrArg List.length asked
    rw [List.length_map, List.length_map] at counted
    rw [counted]
    decide +kernel
  · obtain ⟨-, -, bodies⟩ := tell (by decide +kernel) (tokenOrRange (Node.literal "B"))
      (by decide +kernel) (by decide +kernel) same
    revert bodies
    decide +kernel

end Rulebook
