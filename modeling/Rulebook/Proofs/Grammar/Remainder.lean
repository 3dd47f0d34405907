import Rulebook.Proofs.Grammar.Address
import Rulebook.Proofs.Grammar.Tips

/-!
# What remains of a body

A remainder of a body is a choice of its nodes that can stand by themselves: whole subtrees are left
out, nothing refers to an excluded name, no node has lost all its children, and no range has lost an
end.  Pruning leaves the greatest remainder, so it takes away no more than it must.
-/

namespace Rulebook

namespace Node

mutual

/-- The body without the nodes at addresses that do not stay, and without all that is below them. -/
def cutTo (stays : List Nat → Bool) : Node → Option Node
  | mk kind children =>
      if stays [] then
        some (mk kind (cutAllTo (fun index address => stays (index :: address)) children))
      else none

/-- The nodes of a row without those that do not stay, where every node has its number in the row. -/
def cutAllTo (stays : Nat → List Nat → Bool) : List Node → List Node
  | [] => []
  | node :: later => (cutTo (stays 0) node).toList ++ cutAllTo (fun index => stays (index + 1)) later

end

theorem cutAllTo_eq {stays : Nat → List Nat → Bool} {change : Node → Option Node} {nodes : List Node}
    (each : ∀ index node, nodes[index]? = some node → cutTo (stays index) node = change node) :
    cutAllTo stays nodes = nodes.filterMap change := by
  induction nodes generalizing stays with
  | nil => simp [cutAllTo]
  | cons node nodes induction =>
      have first : cutTo (stays 0) node = change node := each 0 node rfl
      have rest : cutAllTo (fun index => stays (index + 1)) nodes = nodes.filterMap change :=
        induction fun index later listed => each (index + 1) later (by simpa using listed)
      rw [cutAllTo, first, rest, List.filterMap_cons]
      cases change node <;> rfl

/-- Does the node at an address remain?  It does if something remains of it and of all nodes above. -/
def keeps (excluded : List String) (node : Node) : List Nat → Bool
  | [] => (prune excluded node).isSome
  | index :: address =>
      (prune excluded node).isSome &&
        node.children[index]?.any fun child => child.keeps excluded address

/-- Does a tip remain at an address or below it? -/
def KeepsTip (excluded : List String) (body : Node) (address : List Nat) : Prop :=
  ∃ below tip, body.at? (address ++ below) = some tip ∧ tip.children = [] ∧
    body.keeps excluded (address ++ below) = true

/-- Can the nodes at some addresses of a body stand without the others and without the names? -/
structure IsRemainder (excluded : List String) (body : Node) (stays : List Nat → Prop) : Prop where
  /-- There are nodes at the addresses. -/
  inside : ∀ address, stays address → ∃ part, body.at? address = some part
  /-- No node stays below one that goes. -/
  above : ∀ address below, stays (address ++ below) → stays address
  /-- No node refers to an excluded name. -/
  allowed : ∀ address part, body.at? address = some part → stays address → part.Spares excluded
  /-- No node that had children is left without them. -/
  child : ∀ address part, body.at? address = some part → stays address → part.children ≠ [] →
    ∃ index, stays (address ++ [index])
  /-- A range keeps both ends. -/
  ends : ∀ address part, body.at? address = some part → stays address → part.kind = .range →
    stays (address ++ [0]) ∧ stays (address ++ [1])

variable {excluded : List String} {body part : Node} {address : List Nat}

/-! ### Addresses that remain -/

theorem isSome_prune_of_keeps (kept : body.keeps excluded address = true) :
    (prune excluded body).isSome = true := by
  cases address with
  | nil => exact kept
  | cons index address => exact (Bool.and_eq_true_iff.mp kept).1

theorem keeps_cons {index : Nat} : body.keeps excluded (index :: address) = true ↔
    (prune excluded body).isSome = true ∧
      ∃ child, body.children[index]? = some child ∧ child.keeps excluded address = true := by
  rw [keeps, Bool.and_eq_true_iff, Option.any_eq_true]

/-- A node remains if the node at an address above it does, and it remains below that one. -/
theorem keeps_append (found : body.at? address = some part) (below : List Nat) :
    body.keeps excluded (address ++ below) = true ↔
      body.keeps excluded address = true ∧ part.keeps excluded below = true := by
  induction address generalizing body with
  | nil =>
      obtain rfl : body = part := Option.some.inj found
      exact ⟨fun kept => ⟨isSome_prune_of_keeps kept, kept⟩, And.right⟩
  | cons index address induction =>
      obtain ⟨child, listed, deeper⟩ := at?_cons_eq_some.mp found
      have one : body.children[index]? = some child := listed
      simp only [List.cons_append, keeps_cons, one, Option.some.injEq, exists_eq_left',
        induction deeper, and_assoc]

/-- Something remains of a node that remains. -/
theorem isSome_prune_at (found : body.at? address = some part)
    (kept : body.keeps excluded address = true) : (prune excluded part).isSome = true := by
  rw [← List.append_nil address] at kept
  exact ((keeps_append found []).mp kept).2

theorem exists_at?_of_keeps (kept : body.keeps excluded address = true) :
    ∃ part, body.at? address = some part := by
  induction address generalizing body with
  | nil => exact ⟨body, rfl⟩
  | cons index address induction =>
      obtain ⟨-, child, listed, below⟩ := keeps_cons.mp kept
      obtain ⟨part, found⟩ := induction below
      exact ⟨part, at?_cons_eq_some.mpr ⟨child, listed, found⟩⟩

/-- All nodes above a node that remains do so too. -/
theorem keeps_of_append {below : List Nat} (kept : body.keeps excluded (address ++ below) = true) :
    body.keeps excluded address = true := by
  obtain ⟨part, found⟩ := exists_at?_of_keeps kept
  obtain ⟨upper, here, -⟩ := at?_append_eq_some.mp found
  exact ((keeps_append here below).mp kept).1

/-- A child of which something remains does so below a node that remains. -/
theorem keeps_child {index : Nat} {child : Node} (found : body.at? address = some part)
    (kept : body.keeps excluded address = true) (listed : part.children[index]? = some child)
    (remains : (prune excluded child).isSome = true) :
    body.keeps excluded (address ++ [index]) = true :=
  (keeps_append found [index]).mpr
    ⟨kept, keeps_cons.mpr ⟨isSome_prune_at found kept, child, listed, remains⟩⟩

/-- Pruning cuts a body to the addresses that remain. -/
theorem prune_eq_cutTo (excluded : List String) (body : Node) :
    prune excluded body = body.cutTo (body.keeps excluded) := by
  induction body with
  | mk kind children induction =>
      rw [cutTo, keeps]
      cases pruned : prune excluded (mk kind children) with
      | none => rfl
      | some kept =>
          have each : ∀ index child, children[index]? = some child →
              cutTo (fun address => keeps excluded (mk kind children) (index :: address)) child =
                prune excluded child := by
            intro index child listed
            have below : (fun address => keeps excluded (mk kind children) (index :: address)) =
                child.keeps excluded := by
              funext address
              rw [keeps, pruned, children_mk, listed, Option.any_some]
              exact Bool.true_and _
            rw [below]
            exact (induction child (List.mem_of_getElem? listed)).symm
          rw [Option.isSome_some, if_pos rfl, cutAllTo_eq each, eq_of_prune pruned]

/-! ### What a node keeps if it remains -/

theorem isSome_prune_mk {kind : NodeKind} {children : List Node} :
    (prune excluded (mk kind children)).isSome = true ↔
      refersTo excluded (mk kind children) = false ∧
        (children = [] ∨ kind.survives (children.filterMap (prune excluded)) = true) := by
  rw [prune_mk]
  cases refersTo excluded (mk kind children) with
  | true => simp
  | false =>
      by_cases childless : children = []
      · simp [childless]
      · cases kind.survives (children.filterMap (prune excluded)) <;> simp [childless]

theorem exists_child_of_isSome_prune (remains : (prune excluded body).isSome = true)
    (parent : body.children ≠ []) :
    ∃ (index : Nat) (child : Node),
      body.children[index]? = some child ∧ (prune excluded child).isSome = true := by
  obtain ⟨kind, children⟩ := body
  have survives : kind.survives (children.filterMap (prune excluded)) = true :=
    (isSome_prune_mk.mp remains).2.resolve_left parent
  obtain ⟨kept, member⟩ := List.exists_mem_of_ne_nil _ (NodeKind.survives_iff.mp survives).1
  obtain ⟨child, present, pruned⟩ := List.mem_filterMap.mp member
  obtain ⟨index, listed⟩ := List.mem_iff_getElem?.mp present
  exact ⟨index, child, listed, Option.isSome_of_eq_some pruned⟩

/-- A range remains if and only if both ends do. -/
theorem isSome_prune_range {children : List Node} (both : children.length = 2) :
    (prune excluded (mk .range children)).isSome = true ↔
      ∀ child ∈ children, (prune excluded child).isSome = true := by
  have parent : children ≠ [] := List.ne_nil_of_length_pos (by omega)
  rw [isSome_prune_mk, NodeKind.survives_iff, ← List.filterMap_length_eq_length, both]
  constructor
  · rintro ⟨-, childless | ⟨-, two⟩⟩
    · exact absurd childless parent
    · exact two rfl
  · intro two
    exact ⟨rfl, .inr ⟨List.ne_nil_of_length_pos (by omega), fun _ => two⟩⟩

/-- A tip remains below every node that remains. -/
theorem keepsTip_of_isSome_prune (remains : (prune excluded body).isSome = true) :
    body.KeepsTip excluded [] := by
  induction body with
  | mk kind children induction =>
      by_cases parent : children = []
      · exact ⟨[], mk kind children, rfl, parent, remains⟩
      · obtain ⟨index, child, listed, below⟩ := exists_child_of_isSome_prune remains parent
        obtain ⟨address, tip, found, childless, kept⟩ :=
          induction child (List.mem_of_getElem? listed) below
        exact ⟨index :: address, tip, at?_cons_eq_some.mpr ⟨child, listed, found⟩, childless,
          keeps_cons.mpr ⟨remains, child, listed, kept⟩⟩

theorem keepsTip_of_keeps (kept : body.keeps excluded address = true) :
    body.KeepsTip excluded address := by
  obtain ⟨part, found⟩ := exists_at?_of_keeps kept
  obtain ⟨below, tip, deeper, childless, stays⟩ :=
    keepsTip_of_isSome_prune (isSome_prune_at found kept)
  exact ⟨below, tip, at?_append_eq_some.mpr ⟨part, found, deeper⟩, childless,
    (keeps_append found below).mpr ⟨kept, stays⟩⟩

theorem KeepsTip.keeps (kept : body.KeepsTip excluded address) :
    body.keeps excluded address = true := by
  obtain ⟨below, tip, -, -, stays⟩ := kept
  exact keeps_of_append stays

/-- A body goes if and only if none of its tips remains. -/
theorem prune_eq_none_iff : prune excluded body = none ↔ ¬ body.KeepsTip excluded [] := by
  rw [← Option.not_isSome_iff_eq_none]
  exact not_congr ⟨keepsTip_of_isSome_prune, KeepsTip.keeps⟩

/-! ### The greatest remainder -/

/-- What pruning leaves is a remainder. -/
theorem isRemainder_keeps (complete : body.HasOperands) :
    body.IsRemainder excluded fun address => body.keeps excluded address = true where
  inside _ := exists_at?_of_keeps
  above _ _ := keeps_of_append
  allowed address part found kept := by
    obtain ⟨remaining, pruned⟩ := Option.isSome_iff_exists.mp (isSome_prune_at found kept)
    exact refersTo_eq_false_iff.mp (refersTo_of_prune pruned)
  child address part found kept parent := by
    obtain ⟨index, child, listed, remains⟩ :=
      exists_child_of_isSome_prune (isSome_prune_at found kept) parent
    exact ⟨index, keeps_child found kept listed remains⟩
  ends address part found kept range := by
    have remains : (prune excluded part).isSome = true := isSome_prune_at found kept
    obtain ⟨kind, children⟩ := part
    obtain rfl : kind = .range := range
    have both : children.length = 2 := (hasOperands_mk.mp (complete.at? found)).1 2 rfl
    have each : ∀ index < 2, body.keeps excluded (address ++ [index]) = true := by
      intro index inside
      have listed : children[index]? = some children[index] := List.getElem?_eq_getElem _
      exact keeps_child found kept listed
        ((isSome_prune_range both).mp remains _ (List.getElem_mem _))
    exact ⟨each 0 (by decide), each 1 (by decide)⟩

namespace IsRemainder

variable {stays : List Nat → Prop}

/-- Below a child there is a remainder of the child. -/
theorem below (remainder : body.IsRemainder excluded stays) {index : Nat} {child : Node}
    (listed : body.children[index]? = some child) :
    child.IsRemainder excluded fun address => stays (index :: address) where
  inside address kept := by
    rw [← at?_cons listed]
    exact remainder.inside (index :: address) kept
  above address deeper := remainder.above (index :: address) deeper
  allowed address part found :=
    remainder.allowed (index :: address) part ((at?_cons listed address).trans found)
  child address part found :=
    remainder.child (index :: address) part ((at?_cons listed address).trans found)
  ends address part found :=
    remainder.ends (index :: address) part ((at?_cons listed address).trans found)

theorem exists_child (remainder : body.IsRemainder excluded stays) {index : Nat}
    (kept : stays (index :: address)) : ∃ child, body.children[index]? = some child := by
  obtain ⟨part, found⟩ := remainder.inside _ kept
  obtain ⟨child, listed, -⟩ := at?_cons_eq_some.mp found
  exact ⟨child, listed⟩

/-- A body of which some remainder has the root does not go. -/
theorem isSome_prune (remainder : body.IsRemainder excluded stays) (complete : body.HasOperands)
    (here : stays []) : (prune excluded body).isSome = true := by
  induction body generalizing stays with
  | mk kind children induction =>
      have each : ∀ index child, children[index]? = some child → stays [index] →
          (prune excluded child).isSome = true := by
        intro index child listed kept
        have member : child ∈ children := List.mem_of_getElem? listed
        exact induction child member (remainder.below listed)
          ((hasOperands_mk.mp complete).2 child member) kept
      -- The child that the root keeps has the root of a remainder, and so has each end of a range.
      rw [isSome_prune_mk, or_iff_not_imp_left]
      refine ⟨refersTo_eq_false_iff.mpr (remainder.allowed [] _ rfl here),
        fun parent => NodeKind.survives_iff.mpr ⟨?_, ?_⟩⟩
      · obtain ⟨index, kept⟩ := remainder.child [] _ rfl here parent
        obtain ⟨child, listed⟩ := remainder.exists_child kept
        obtain ⟨remaining, pruned⟩ := Option.isSome_iff_exists.mp (each index child listed kept)
        exact List.ne_nil_of_mem
          (List.mem_filterMap.mpr ⟨child, List.mem_of_getElem? listed, pruned⟩)
      · rintro rfl
        have both : children.length = 2 := (hasOperands_mk.mp complete).1 2 rfl
        rw [← both, List.filterMap_length_eq_length]
        intro child member
        obtain ⟨index, inside, rfl⟩ := List.mem_iff_getElem.mp member
        have kept : stays [index] := by
          obtain rfl | rfl : index = 0 ∨ index = 1 := by omega
          · exact (remainder.ends [] _ rfl here rfl).1
          · exact (remainder.ends [] _ rfl here rfl).2
        exact each index _ (List.getElem?_eq_getElem inside) kept

/-- All of a remainder is left by pruning. -/
theorem keeps (remainder : body.IsRemainder excluded stays) (complete : body.HasOperands)
    (kept : stays address) : body.keeps excluded address = true := by
  induction address generalizing body stays with
  | nil => exact remainder.isSome_prune complete kept
  | cons index address induction =>
      obtain ⟨child, listed⟩ := remainder.exists_child kept
      have found : body.at? [index] = some child := at?_cons listed []
      have operands : child.HasOperands := complete.at? found
      exact keeps_cons.mpr ⟨remainder.isSome_prune complete (remainder.above [] _ kept), child,
        listed, induction (remainder.below listed) operands kept⟩

end IsRemainder

/-! ### Tips that remain -/

/-- A node with children refers to nothing. -/
theorem spares_of_ne_nil (complete : body.HasOperands) (parent : body.children ≠ []) :
    body.Spares excluded := by
  obtain ⟨kind, children⟩ := body
  intro name refers
  have childless : children.length = 0 := (hasOperands_mk.mp complete).1 0
    (NodeKind.arity?_of_isLeaf (NodeKind.isLeaf_of_target? (NodeKind.target?_eq_some.mpr refers)))
  exact absurd (List.length_eq_zero_iff.mp childless) parent

/-- Does every range on the way down to an address keep a tip below each end? -/
def RangesHold (excluded : List String) (body : Node) (address : List Nat) : Prop :=
  ∀ above range, above <+: address → body.at? above = some range → range.kind = .range →
    body.KeepsTip excluded (above ++ [0]) ∧ body.KeepsTip excluded (above ++ [1])

/-- The way down to a tip can stand with all that pruning leaves if the ranges on the way hold. -/
theorem isRemainder_of_rangesHold (complete : body.HasOperands)
    (found : body.at? address = some part) (childless : part.children = [])
    (allowed : part.Spares excluded) (hold : body.RangesHold excluded address) :
    body.IsRemainder excluded fun place =>
      body.keeps excluded place = true ∨ place <+: address where
  inside place stays := by
    rcases stays with kept | ⟨below, rfl⟩
    · exact exists_at?_of_keeps kept
    · obtain ⟨node, here, -⟩ := at?_append_eq_some.mp found
      exact ⟨node, here⟩
  above place below stays := by
    rcases stays with kept | onWay
    · exact .inl (keeps_of_append kept)
    · exact .inr ((List.prefix_append place below).trans onWay)
  allowed place node here stays := by
    rcases stays with kept | ⟨below, rfl⟩
    · exact (isRemainder_keeps complete).allowed place node here kept
    · rw [at?_append, here, Option.bind_some] at found
      cases below with
      | nil => exact Option.some.inj found ▸ allowed
      | cons index below =>
          obtain ⟨child, listed, -⟩ := at?_cons_eq_some.mp found
          exact spares_of_ne_nil (complete.at? here)
            (List.ne_nil_of_mem (List.mem_of_getElem? listed))
  child place node here stays parent := by
    rcases stays with kept | ⟨below, rfl⟩
    · obtain ⟨index, stays⟩ := (isRemainder_keeps complete).child place node here kept parent
      exact ⟨index, .inl stays⟩
    · rw [at?_append, here, Option.bind_some] at found
      cases below with
      | nil => exact absurd (Option.some.inj found ▸ childless) parent
      | cons index below => exact ⟨index, .inr ⟨below, by simp⟩⟩
  ends place node here stays range := by
    rcases stays with kept | onWay
    · exact ((isRemainder_keeps complete).ends place node here kept range).imp .inl .inl
    · exact (hold place node onWay here range).imp (.inl ∘ KeepsTip.keeps) (.inl ∘ KeepsTip.keeps)

/-- A tip that refers to no excluded name remains if and only if the ranges above it hold. -/
theorem keeps_tip_iff (complete : body.HasOperands) (found : body.at? address = some part)
    (childless : part.children = []) (allowed : part.Spares excluded) :
    body.keeps excluded address = true ↔ body.RangesHold excluded address := by
  constructor
  · rintro kept above range ⟨below, rfl⟩ here isRange
    have both := (isRemainder_keeps complete).ends above range here (keeps_of_append kept) isRange
    exact both.imp keepsTip_of_keeps keepsTip_of_keeps
  · intro hold
    exact (isRemainder_of_rangesHold complete found childless allowed hold).keeps complete
      (.inr List.prefix_rfl)

/-- Without ranges all tips remain that refer to no excluded name. -/
theorem keeps_tip (complete : body.HasOperands) (rangeless : body.AllKinds (· ≠ .range))
    (found : body.at? address = some part) (childless : part.children = [])
    (allowed : part.Spares excluded) : body.keeps excluded address = true := by
  rw [keeps_tip_iff complete found childless allowed]
  intro above range _ here isRange
  exact absurd isRange (rangeless range (mem_preorder_of_at? here))

/-- Pruning removes exactly what it must: it cuts the body to a remainder, and to the greatest one.
Nothing that is left refers to an excluded name.  A tip that refers to none is left if and only if
every range above it keeps a tip below each end, and always if there are no ranges.  Nothing is left
if and only if no tip is. -/
theorem prune_greatest {body : Node} (complete : body.HasOperands) (excluded : List String) :
    prune excluded body = body.cutTo (body.keeps excluded) ∧
      body.IsRemainder excluded (fun address => body.keeps excluded address = true) ∧
        (∀ stays, body.IsRemainder excluded stays →
          ∀ address, stays address → body.keeps excluded address = true) ∧
          (∀ kept, prune excluded body = some kept →
            kept.Everywhere fun part => part.Spares excluded) ∧
            (∀ address tip, body.at? address = some tip → tip.children = [] →
              tip.Spares excluded →
                (body.keeps excluded address = true ↔ body.RangesHold excluded address) ∧
                  (body.AllKinds (· ≠ .range) → body.keeps excluded address = true)) ∧
              (prune excluded body = none ↔ ¬ body.KeepsTip excluded []) := by
  refine ⟨prune_eq_cutTo excluded body, isRemainder_keeps complete,
    fun stays remainder address kept => remainder.keeps complete kept,
    fun kept pruned part inside => refersTo_eq_false_iff.mp (everywhere_of_prune pruned part inside),
    fun address tip found childless allowed => ⟨?_, fun rangeless => ?_⟩, prune_eq_none_iff⟩
  · exact keeps_tip_iff complete found childless allowed
  · exact keeps_tip complete rangeless found childless allowed

/-- A range that loses one end, beside a spelling, and an option of which nothing is left. -/
def brokenRange : Node :=
  block [
    alternative [.mk .range [token "A", block [token "B"]], literal "x"],
    alternative [.mk (.optional true) [token "B"]]]

/-- The other end of the range goes with it, the spelling beside it stays. -/
theorem prune_greatest_brokenRange :
    brokenRange.HasOperands ∧
      prune ["B"] brokenRange = some (block [alternative [literal "x"]]) ∧
        ¬ brokenRange.RangesHold ["B"] [0, 0, 0] ∧ brokenRange.RangesHold ["B"] [0, 1] ∧
          brokenRange.KeepsTip ["B"] [] := by
  have complete : brokenRange.HasOperands :=
    (firstArityViolation?_eq_none "r").mp (by decide +kernel)
  have pruned : prune ["B"] brokenRange = some (block [alternative [literal "x"]]) := by
    decide +kernel
  obtain ⟨-, -, -, -, tips, vanishes⟩ := prune_greatest complete ["B"]
  refine ⟨complete, pruned, ?_, ?_, ?_⟩
  · rw [← (tips [0, 0, 0] _ rfl rfl (refersTo_eq_false_iff.mp rfl)).1]
    decide +kernel
  · rw [← (tips [0, 1] _ rfl rfl (refersTo_eq_false_iff.mp rfl)).1]
    decide +kernel
  · by_contra gone
    rw [vanishes.mpr gone] at pruned
    exact Option.some_ne_none _ pruned.symm

end Node
end Rulebook
