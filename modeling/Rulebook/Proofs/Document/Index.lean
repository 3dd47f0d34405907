import Mathlib.Data.List.Nodup
import Rulebook.Document.Builder

/-!
# What the index of usages holds

The users of a name are noted in the order of the references to it, and the last declaration of a
name is its anchor.  Which steps come between does not matter.
-/

namespace Rulebook

/-- The users with one more, if it is not among them. -/
def addDistinct (users : List String) (user : String) : List String :=
  if users.contains user then users else users ++ [user]

/-- Users that are added one by one stand by first appearance. -/
theorem foldl_addDistinct (users more : List String) :
    more.foldl addDistinct users =
      users ++ (more.filter fun user => !users.contains user).eraseDups := by
  induction more generalizing users with
  | nil => simp
  | cons user more induction =>
      rw [List.foldl_cons, induction, addDistinct, List.filter_cons]
      by_cases known : users.contains user = true
      · simp only [known, if_true, Bool.not_true, Bool.false_eq_true, if_false]
      · rw [if_neg known, if_pos (by simpa using known), List.eraseDups_cons, List.append_assoc,
          List.singleton_append, List.filter_filter]
        have unknown : (fun other => !(other == user) && !users.contains other) =
            fun other => !(users ++ [user]).contains other := by
          funext other
          rw [Bool.and_comm, List.contains_append, Bool.not_or]
          simp only [List.contains_cons, List.contains_nil, Bool.or_false]
        rw [← unknown]

theorem foldl_addDistinct_nil (users : List String) :
    users.foldl addDistinct [] = users.eraseDups := by
  rw [foldl_addDistinct, List.nil_append, List.filter_eq_self.mpr fun user _ => by simp]

namespace UsageIndex

variable {index : UsageIndex}

/-- The record of a name after it has been changed, and the records of all other names. -/
theorem get?_update (name : String) (change : UsageRecord → UsageRecord) (other : String) :
    (index.update name change).get? other =
      if other = name then some (change ((index.get? name).getD {})) else index.get? other := by
  obtain ⟨entries⟩ := index
  simp only [update, get?]
  induction entries with
  | nil =>
      rw [updateEntries, List.lookup_cons, List.lookup_nil]
      by_cases same : other = name
      · simp [same]
      · simp [same, beq_eq_false_iff_ne.mpr same]
  | cons entry entries induction =>
      obtain ⟨known, usage⟩ := entry
      rw [updateEntries]
      by_cases here : known = name
      · subst here
        rw [if_pos rfl]
        by_cases same : other = known
        · simp [same]
        · simp [same, List.lookup_cons, beq_eq_false_iff_ne.mpr same]
      · rw [if_neg here]
        by_cases same : other = known
        · simp [same, here]
        · rw [List.lookup_cons, List.lookup_cons, beq_eq_false_iff_ne.mpr same]
          simp only [induction, List.lookup_cons, beq_eq_false_iff_ne.mpr same,
            beq_eq_false_iff_ne.mpr (Ne.symm here)]

/-- The names with a record are those that had one, and the name whose record has been changed. -/
theorem map_fst_update (name : String) (change : UsageRecord → UsageRecord) :
    (index.update name change).entries.map Prod.fst =
      addDistinct (index.entries.map Prod.fst) name := by
  obtain ⟨entries⟩ := index
  simp only [update, addDistinct]
  induction entries with
  | nil => simp [updateEntries]
  | cons entry entries induction =>
      obtain ⟨known, usage⟩ := entry
      rw [updateEntries]
      by_cases here : known = name
      · simp [here]
      · rw [if_neg here, List.map_cons, induction]
        by_cases later : (entries.map Prod.fst).contains name = true
        · simp_all
        · simp_all [Ne.symm here]

/-- The users of a name so far. -/
def usersOf (index : UsageIndex) (name : String) : List String :=
  ((index.get? name).map UsageRecord.users).getD []

/-- The place at which a name has been declared last. -/
def anchorOf? (index : UsageIndex) (name : String) : Option ElementId :=
  (index.get? name).bind UsageRecord.anchor?

theorem usersOf_reference (target user name : String) :
    (index.reference target user).usersOf name =
      if name = target then addDistinct (index.usersOf name) user else index.usersOf name := by
  simp only [usersOf, reference, get?_update]
  by_cases same : name = target
  · subst same
    simp only [if_true, Option.map_some, Option.getD_some, addDistinct]
    cases index.get? name with
    | none => rfl
    | some usage =>
        simp only [Option.getD_some, Option.map_some, UsageRecord.addUser]
        split <;> rfl
  · rw [if_neg same, if_neg same]

theorem usersOf_declare (name other : String) (anchor : ElementId) :
    (index.declare name anchor).usersOf other = index.usersOf other := by
  simp only [usersOf, declare, get?_update]
  by_cases same : other = name
  · subst same
    cases found : index.get? other <;> simp [UsageRecord.setAnchor]
  · rw [if_neg same]

theorem anchorOf?_reference (target user name : String) :
    (index.reference target user).anchorOf? name = index.anchorOf? name := by
  simp only [anchorOf?, reference, get?_update]
  by_cases same : name = target
  · subst same
    cases found : index.get? name with
    | none => simp [UsageRecord.addUser]
    | some usage =>
        simp only [if_true, Option.getD_some, Option.bind_some, UsageRecord.addUser]
        split <;> rfl
  · rw [if_neg same]

theorem anchorOf?_declare (name other : String) (anchor : ElementId) :
    (index.declare name anchor).anchorOf? other =
      if other = name then some anchor else index.anchorOf? other := by
  simp only [anchorOf?, declare, get?_update]
  split <;> rfl

theorem nodup_update {name : String} {change : UsageRecord → UsageRecord}
    (nodup : (index.entries.map Prod.fst).Nodup) :
    ((index.update name change).entries.map Prod.fst).Nodup := by
  rw [map_fst_update, addDistinct]
  split
  · exact nodup
  · rename_i fresh
    refine nodup.append (List.nodup_singleton name) (List.disjoint_singleton.mpr fun inside => ?_)
    exact fresh (List.contains_iff_mem.mpr inside)

end UsageIndex

/-! ### Users that steps note -/

namespace Step

mutual

/-- The users of a name that a step notes, in order. -/
def usersOf (name : String) : Step → List String
  | .reference target user => if target = name then [user] else []
  | .element _ body => usersOfAll name body
  | .within _ body => usersOfAll name body
  | _ => []

/-- The users of a name that steps note in order. -/
def usersOfAll (name : String) : List Step → List String
  | [] => []
  | step :: later => usersOf name step ++ usersOfAll name later

end

theorem usersOfAll_eq (name : String) (steps : List Step) :
    usersOfAll name steps = steps.flatMap (usersOf name) := by
  induction steps with
  | nil => rfl
  | cons step steps induction => rw [usersOfAll, induction, List.flatMap_cons]

end Step

namespace Builder

mutual

/-- A step adds the users that it notes. -/
theorem usersOf_perform (name : String) : ∀ (step : Step) (builder : Builder),
    (perform step builder).usages.usersOf name =
      (step.usersOf name).foldl addDistinct (builder.usages.usersOf name)
  | .element tag body, builder => usersOf_performAll name body _
  | .within id body, builder => usersOf_performAll name body _
  | .setAttribute .., _ => rfl
  | .text _, _ => rfl
  | .cdata _, _ => rfl
  | .reference target user, builder => by
      have noted := builder.usages.usersOf_reference target user name
      rw [Step.usersOf]
      by_cases same : target = name
      · rw [if_pos same.symm] at noted
        rw [if_pos same]
        exact noted
      · rw [if_neg (Ne.symm same)] at noted
        rw [if_neg same]
        exact noted
  | .declare declared, builder => builder.usages.usersOf_declare declared name builder.current

/-- Steps add the users that they note in order. -/
theorem usersOf_performAll (name : String) : ∀ (steps : List Step) (builder : Builder),
    (performAll steps builder).usages.usersOf name =
      (Step.usersOfAll name steps).foldl addDistinct (builder.usages.usersOf name)
  | [], _ => rfl
  | step :: later, builder => by
      rw [performAll, usersOf_performAll name later, usersOf_perform name step, Step.usersOfAll,
        List.foldl_append]

end

/-- The users of a name after some steps are those that the steps note, by first reference. -/
theorem usersOf_performAll_new (root name : String) (steps : List Step) :
    (performAll steps (Builder.new root)).usages.usersOf name =
      (Step.usersOfAll name steps).eraseDups := by
  rw [usersOf_performAll, ← foldl_addDistinct_nil]
  rfl

end Builder
end Rulebook
