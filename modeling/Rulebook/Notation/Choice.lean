import Rulebook.Notation.Element

/-!
# Alternatives and groups

Elements follow one another up to the end of their alternative, and alternatives are separated by
bars.  With these readers every token tree becomes an item, from the innermost groups outwards.
-/

namespace Rulebook
namespace Notation

/-- Reads elements until `ends` holds of the tokens that are left. -/
def readElements (ends : List Item → Bool) (items : List Item) : Reading (List Node) :=
  if ends items then .ok ([], items)
  else
    match _ : readElement items with
    | .error fault => .error fault
    | .ok (node, rest) =>
        match readElements ends rest with
        | .error fault => .error fault
        | .ok (nodes, rest) => .ok (node :: nodes, rest)
  termination_by items.length
  decreasing_by exact length_lt_of_readElement (by assumption)

theorem suffix_of_readElements {ends : List Item → Bool} {items rest : List Item}
    {nodes : List Node} (read : readElements ends items = .ok (nodes, rest)) : rest <:+ items := by
  fun_induction readElements ends items generalizing nodes rest with
  | case1 | case2 | case3 => simp_all
  | case4 items _ node after first more last later induction =>
    simp only [Except.ok.injEq, Prod.mk.injEq] at read
    rw [← read.2]
    exact (induction later).trans (shortens_of_readElement first).suffix

theorem length_readElements_le {ends : List Item → Bool} {items rest : List Item}
    {nodes : List Node} (read : readElements ends items = .ok (nodes, rest)) :
    rest.length ≤ items.length :=
  (suffix_of_readElements read).length_le

/-- Does an alternative of a group end before the tokens? -/
def endsInGroup (items : List Item) : Bool :=
  items.isEmpty || startsWithMark '|' items

/-- Reads the alternatives of a group. -/
def readChoice (items : List Item) : Except Fault (List Node) :=
  match _ : readElements endsInGroup items with
  | .error fault => .error fault
  | .ok (nodes, []) => .ok [Node.alternative nodes]
  | .ok (nodes, _ :: rest) =>
      match readChoice rest with
      | .error fault => .error fault
      | .ok alternatives => .ok (Node.alternative nodes :: alternatives)
  termination_by items.length
  decreasing_by
    have rest_le := length_readElements_le (by assumption)
    simp at rest_le
    omega

/-- Reads the text of a character set. -/
def readSet (items : List Item) : Except Fault String :=
  match items with
  | [.leaf (.text value)] => .ok value
  | .leaf (.text _) :: _ => .error .crowdedSet
  | _ => .error (missingBefore .text items)

mutual

/-- The token tree as the reader of elements meets it. -/
def TokenTree.item : TokenTree → Item
  | .leaf token => .leaf token
  | .group .parenthesis content => .choice (readChoice (TokenTree.items content))
  | .group .bracket content => .set (readSet (TokenTree.items content))
  | .group .brace content => .braces content

/-- A row of token trees as the reader of elements meets it. -/
def TokenTree.items : List TokenTree → List Item
  | [] => []
  | tree :: later => TokenTree.item tree :: TokenTree.items later

end

end Notation
end Rulebook
