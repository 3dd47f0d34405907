import Mathlib.Data.List.Infix
import Mathlib.Data.List.TakeWhile
import Rulebook.Grammar.Section
import Rulebook.Rendering.Selection

/-!
# Sections of rules

A rule belongs to the section that was opened last, by itself or by a rule before it.  Which section
that is depends on which of the rules before it count.
-/

namespace Rulebook

/-! ### Marker lines -/

namespace Section

/-- Does a line name a section?  Behind white space it begins with `// SECTION: `, and the title behind
that consists of spaces and word characters. -/
def Names (line title : String) : Prop :=
  ∃ blanks : List Char, line.toList = blanks ++ ("// SECTION: ".toList ++ title.toList) ∧
    (∀ character ∈ blanks, Unicode.isWhiteSpace character = true) ∧
      ∀ character ∈ title.toList, character = ' ' ∨ Unicode.isWordCharacter character = true

theorem isNameCharacter_iff {character : Char} :
    isNameCharacter character = true ↔
      character = ' ' ∨ Unicode.isWordCharacter character = true := by
  simp [isNameCharacter]

theorem names_of_marker? {line title : String} (found : marker? line = some title) :
    Names line title := by
  unfold marker? at found
  simp only [List.isPrefixOf_iff_prefix] at found
  split at found
  · rename_i lead
    split at found
    · rename_i plain
      obtain ⟨rest, same⟩ := lead
      have name : (line.toList.dropWhile Unicode.isWhiteSpace).drop markerLead.length = rest := by
        rw [← same, List.drop_left]
      rw [name] at found plain
      have letters : title.toList = rest := by
        rw [← Option.some.inj found, String.toList_ofList]
      refine ⟨line.toList.takeWhile Unicode.isWhiteSpace, ?_, ?_, ?_⟩
      · rw [letters]
        calc
          line.toList = line.toList.takeWhile Unicode.isWhiteSpace ++
              line.toList.dropWhile Unicode.isWhiteSpace := List.takeWhile_append_dropWhile.symm
          _ = line.toList.takeWhile Unicode.isWhiteSpace ++ (markerLead ++ rest) := by rw [same]
      · exact fun character member => List.mem_takeWhile_imp member
      · rw [letters]
        exact fun character member =>
          isNameCharacter_iff.mp (List.all_eq_true.mp plain character member)
    · cases found
  · cases found

theorem marker?_of_names {line title : String} (names : Names line title) :
    marker? line = some title := by
  obtain ⟨blanks, same, white, plain⟩ := names
  have text : line.toList.dropWhile Unicode.isWhiteSpace = markerLead ++ title.toList := by
    have stops : ¬ Unicode.isWhiteSpace '/' = true := by decide
    have lead : markerLead = '/' :: "/ SECTION: ".toList := by rfl
    rw [same, List.dropWhile_append_of_pos white]
    change (markerLead ++ title.toList).dropWhile _ = _
    rw [lead, List.cons_append, List.dropWhile_cons_of_neg stops]
  have all_plain : title.toList.all isNameCharacter = true :=
    List.all_eq_true.mpr fun character member => isNameCharacter_iff.mpr (plain character member)
  simp only [marker?, text, List.isPrefixOf_iff_prefix, List.prefix_append, if_true, List.drop_left,
    all_plain, String.ofList_toList]

/-- The marker of a line is the section that the line names. -/
theorem marker?_eq_some_iff {line title : String} : marker? line = some title ↔ Names line title :=
  ⟨names_of_marker?, marker?_of_names⟩

end Section

/-! ### Opening rules -/

/-- The section that a rule of a namespace opens: that of the marker which stands in the source the
offset of the settings above the rule.  Rules count their lines from one. -/
def Grammar.openedBy? (grammar : Grammar) (settings : Settings) (kind : RuleKind) (rule : Rule) :
    Option String :=
  if rule.line ≤ settings.sectionMarkerOffset then none
  else (grammar.source kind)[rule.line - settings.sectionMarkerOffset - 1]?.bind Section.marker?

/-- A rule opens a section if and only if the line the offset above it names the section. -/
theorem Grammar.openedBy?_eq_some_iff {grammar : Grammar} {settings : Settings} {kind : RuleKind}
    {rule : Rule} {title : String} :
    grammar.openedBy? settings kind rule = some title ↔
      ∃ above line, rule.line = above + 1 + settings.sectionMarkerOffset ∧
        (grammar.source kind)[above]? = some line ∧ Section.Names line title := by
  rw [openedBy?]
  constructor
  · intro opens
    split at opens
    · cases opens
    · rename_i below
      obtain ⟨line, found, marked⟩ := Option.bind_eq_some_iff.mp opens
      exact ⟨_, line, by omega, found, Section.marker?_eq_some_iff.mp marked⟩
  · rintro ⟨above, line, same, found, names⟩
    have place : rule.line - settings.sectionMarkerOffset - 1 = above := by omega
    rw [if_neg (by omega), place, found, Option.bind_some]
    exact Section.marker?_eq_some_iff.mpr names

/-! ### Rules that are rendered -/

/-- Is a declared rule of a namespace rendered? -/
def Settings.renders (settings : Settings) (kind : RuleKind) (rule : Rule) : Bool :=
  !settings.excludedRules.contains rule.name && (kind == .parser || !settings.hides rule)

/-- A rule as it is rendered, without references to excluded rules. -/
def Settings.remainder (settings : Settings) (rule : Rule) : Rule :=
  if settings.excludedRules.isEmpty then rule else rule.without settings.excludedRules

theorem filterRules_eq (settings : Settings) (rules : List Rule) :
    filterRules settings.excludedRules rules =
      (rules.filter fun rule => !settings.excludedRules.contains rule.name).map
        settings.remainder := by
  unfold filterRules
  split
  · rename_i none
    rw [List.isEmpty_iff] at none
    have same : settings.remainder = id := by
      funext rule
      simp [Settings.remainder, none]
    simp [same, none]
  · rename_i some
    have same : settings.remainder = Rule.without settings.excludedRules := by
      funext rule
      rw [Settings.remainder, if_neg some]
    rw [same]

/-- The rules that are rendered are what remains of the declared rules that are. -/
theorem Grammar.renderedRules_eq (grammar : Grammar) (settings : Settings) (kind : RuleKind) :
    grammar.renderedRules settings kind =
      ((grammar.rules kind).filter (settings.renders kind)).map settings.remainder := by
  cases kind with
  | parser =>
      have kept : settings.renders .parser =
          fun rule => !settings.excludedRules.contains rule.name := by
        funext rule
        simp [Settings.renders]
      rw [renderedRules, filterRules_eq, kept]
      rfl
  | lexer =>
      have hidden (rule : Rule) : settings.hides (settings.remainder rule) = settings.hides rule := by
        unfold Settings.remainder
        split <;> rfl
      have kept : settings.renders .lexer = fun rule =>
          !settings.hides (settings.remainder rule) && !settings.excludedRules.contains rule.name := by
        funext rule
        rw [hidden, Bool.and_comm]
        rfl
      rw [renderedRules, filterRules_eq, List.filter_map, List.filter_filter, kept]
      rfl

/-- What is rendered is what remains of the declared rules that are neither excluded nor, if they are
lexer rules, hidden. -/
theorem Grammar.mem_renderedRules_iff {grammar : Grammar} {settings : Settings} {kind : RuleKind}
    {rule : Rule} : rule ∈ grammar.renderedRules settings kind ↔
      ∃ declared ∈ grammar.rules kind, declared.name ∉ settings.excludedRules ∧
        (kind = .lexer → settings.hides declared = false) ∧ settings.remainder declared = rule := by
  rw [renderedRules_eq, List.mem_map]
  refine exists_congr fun declared => ?_
  rw [List.mem_filter, and_assoc]
  refine and_congr_right fun _ => ?_
  rw [← and_assoc]
  refine and_congr_left fun _ => ?_
  cases kind <;> simp [Settings.renders]

namespace Section

/-- The section that the last opening rule of a row opens. -/
def lastOpened? (opened? : Rule → Option String) (row : List Rule) : Option String :=
  (row.filterMap opened?).getLast?

/-- The section and the name of the last rule of a row, if the rule is shown. -/
def placement? (opened? : Rule → Option String) (shows : Rule → Bool) (row : List Rule) :
    Option (Option String × Option String) :=
  row.getLast?.bind fun rule =>
    if shows rule then some (lastOpened? opened? row, some rule.name) else none

/-- The shown rules among some rules, each with the section that the last opening rule opens among
those from the first up to it. -/
def placements (opened? : Rule → Option String) (shows : Rule → Bool) (rules : List Rule) :
    List (Option String × Option String) :=
  rules.inits.filterMap (placement? opened? shows)

/-- The shown rules among some rules, each with the section that is open after it. -/
def placementsFrom (opened? : Rule → Option String) (shows : Rule → Bool) :
    (current? : Option String) → List Rule → List (Option String × Option String)
  | _, [] => []
  | current?, rule :: later =>
      let section? := (opened? rule).or current?
      if shows rule then
        (section?, some rule.name) :: placementsFrom opened? shows section? later
      else placementsFrom opened? shows section? later

variable {opened? : Rule → Option String} {shows : Rule → Bool}

theorem lastOpened?_concat (row : List Rule) (rule : Rule) :
    lastOpened? opened? (row ++ [rule]) = (opened? rule).or (lastOpened? opened? row) := by
  cases opens : opened? rule <;> simp [lastOpened?, List.filterMap_append, opens]

theorem placement?_concat (row : List Rule) (rule : Rule) :
    placement? opened? shows (row ++ [rule]) =
      if shows rule then some (lastOpened? opened? (row ++ [rule]), some rule.name) else none := by
  simp [placement?]

theorem inits_eq_nil_cons_tail (rules : List Rule) : rules.inits = [] :: rules.inits.tail := by
  cases rules <;> simp

/-- The section of a rule is found by keeping the section that was opened last. -/
theorem filterMap_placement?_inits (rules row : List Rule) :
    (rules.inits.tail.map (row ++ ·)).filterMap (placement? opened? shows) =
      placementsFrom opened? shows (lastOpened? opened? row) rules := by
  induction rules generalizing row with
  | nil => rfl
  | cons rule later induction =>
      have rest := induction (row ++ [rule])
      have longer : (later.inits.tail.map (rule :: ·)).map (row ++ ·) =
          later.inits.tail.map (row ++ [rule] ++ ·) := by
        simp [Function.comp_def]
      rw [List.inits_cons, List.tail_cons, inits_eq_nil_cons_tail later, List.map_cons,
        List.map_cons, List.filterMap_cons, longer, rest, placementsFrom, placement?_concat,
        ← lastOpened?_concat]
      cases shows rule <;> rfl

theorem placements_eq_placementsFrom (rules : List Rule) :
    placements opened? shows rules = placementsFrom opened? shows none rules := by
  have same : (rules.inits.tail.map ([] ++ ·)).filterMap (placement? opened? shows) =
      placementsFrom opened? shows none rules := filterMap_placement?_inits rules []
  have first : placement? opened? shows [] = none := rfl
  rw [placements, inits_eq_nil_cons_tail rules, List.filterMap_cons_none first]
  simpa using same

/-- The section that a rule opens if it is kept. -/
def keptOpened? (opened? : Rule → Option String) (keep : Rule → Bool) (rule : Rule) :
    Option String :=
  if keep rule then opened? rule else none

/-- Rules that are left out open no sections. -/
theorem placementsFrom_filter (keep : Rule → Bool) (current? : Option String) (rules : List Rule) :
    placementsFrom opened? shows current? (rules.filter keep) =
      placementsFrom (keptOpened? opened? keep) (fun rule => keep rule && shows rule) current?
        rules := by
  induction rules generalizing current? with
  | nil => rfl
  | cons rule later induction =>
      cases kept : keep rule <;> simp [placementsFrom, keptOpened?, kept, induction]

theorem placementsFrom_map {change : Rule → Rule}
    (opens : ∀ rule, opened? (change rule) = opened? rule)
    (shown : ∀ rule, shows (change rule) = shows rule)
    (named : ∀ rule, (change rule).name = rule.name) (current? : Option String)
    (rules : List Rule) :
    placementsFrom opened? shows current? (rules.map change) =
      placementsFrom opened? shows current? rules := by
  induction rules generalizing current? with
  | nil => rfl
  | cons rule later induction => simp [placementsFrom, opens, shown, named, induction]

/-! ### Rules that are left out -/

/-- Does the last rule of a row stand in the same section without the rules that are left out?  It does
if, whenever the last opening rule is left out, the section that it opens is open without it. -/
def KeepsSection (opened? : Rule → Option String) (keep : Rule → Bool) (row : List Rule) : Prop :=
  ∀ (before after : List Rule) (left_out : Rule) (title : String),
    row = before ++ left_out :: after → keep left_out = false → opened? left_out = some title →
      (∀ rule ∈ after, opened? rule = none) →
        lastOpened? (keptOpened? opened? keep) row = some title

/-- The last opening rule of a row is followed by rules that open no section. -/
theorem lastOpened?_of_split {before after : List Rule} {rule : Rule} {title : String}
    (opens : opened? rule = some title) (silent : ∀ other ∈ after, opened? other = none) :
    lastOpened? opened? (before ++ rule :: after) = some title := by
  have none_after : after.filterMap opened? = [] := List.filterMap_eq_nil_iff.mpr silent
  rw [lastOpened?, List.filterMap_append, List.filterMap_cons_some opens, none_after,
    List.getLast?_append]
  rfl

theorem exists_split_of_lastOpened? {row : List Rule} {title : String}
    (open_at_end : lastOpened? opened? row = some title) :
    ∃ before after rule, row = before ++ rule :: after ∧ opened? rule = some title ∧
      ∀ other ∈ after, opened? other = none := by
  induction row using List.reverseRecOn with
  | nil => simp [lastOpened?] at open_at_end
  | append_singleton row rule induction =>
      rw [lastOpened?_concat] at open_at_end
      cases opens : opened? rule with
      | some own =>
          rw [opens, Option.some_or] at open_at_end
          exact ⟨row, [], rule, rfl, opens.trans open_at_end, nofun⟩
      | none =>
          rw [opens, Option.none_or] at open_at_end
          obtain ⟨before, after, opener, rfl, opened, silent⟩ := induction open_at_end
          refine ⟨before, after ++ [rule], opener, by simp, opened, ?_⟩
          exact List.forall_mem_append.mpr ⟨silent, List.forall_mem_singleton.mpr opens⟩

theorem lastOpened?_kept_eq_iff {keep : Rule → Bool} {row : List Rule} :
    lastOpened? (keptOpened? opened? keep) row = lastOpened? opened? row ↔
      KeepsSection opened? keep row := by
  constructor
  · rintro same before after left_out title rfl - opens silent
    exact same.trans (lastOpened?_of_split opens silent)
  · intro keeps
    cases last : lastOpened? opened? row with
    | none =>
        have silent : row.filterMap opened? = [] := List.getLast?_eq_none_iff.mp last
        rw [List.filterMap_eq_nil_iff] at silent
        have kept_silent : row.filterMap (keptOpened? opened? keep) = [] := by
          rw [List.filterMap_eq_nil_iff]
          intro rule member
          simp [keptOpened?, silent rule member]
        rw [lastOpened?, kept_silent]
        rfl
    | some title =>
        obtain ⟨before, after, rule, rfl, opens, silent⟩ := exists_split_of_lastOpened? last
        cases kept : keep rule with
        | false => exact keeps before after rule title rfl kept opens silent
        | true =>
            refine lastOpened?_of_split (by simp [keptOpened?, kept, opens]) fun other member => ?_
            simp [keptOpened?, silent other member]

theorem filterMap_eq_filterMap_iff {Value Result : Type} {first second : Value → Option Result}
    (alike : ∀ value, (first value).isSome = (second value).isSome) {values : List Value} :
    values.filterMap first = values.filterMap second ↔
      ∀ value ∈ values, first value = second value := by
  induction values with
  | nil => simp
  | cons value values induction =>
      have same := alike value
      rw [List.filterMap_cons, List.filterMap_cons, List.forall_mem_cons, ← induction]
      cases left : first value <;> cases right : second value <;> simp [left, right] at same ⊢

theorem length_placements (opened? : Rule → Option String) (rules : List Rule) :
    (placements opened? shows rules).length = (rules.filter shows).length := by
  rw [placements_eq_placementsFrom]
  generalize (none : Option String) = current?
  induction rules generalizing current? with
  | nil => rfl
  | cons rule later induction => cases shown : shows rule <;> simp [placementsFrom, shown, induction]

/-- Shown rules have the same sections if the last rule that opens one is always the same. -/
theorem placements_kept_eq_iff {keep : Rule → Bool} {rules : List Rule} :
    placements (keptOpened? opened? keep) shows rules = placements opened? shows rules ↔
      ∀ row, row <+: rules → ∀ rule ∈ row.getLast?, shows rule = true →
        KeepsSection opened? keep row := by
  rw [placements, placements, filterMap_eq_filterMap_iff]
  · refine forall_congr' fun row => ?_
    rw [List.mem_inits]
    refine imp_congr_right fun _ => ?_
    cases last : row.getLast? with
    | none => simp [placement?, last]
    | some rule =>
        simp only [placement?, last, Option.bind_some, Option.mem_some_iff, forall_eq',
          ← lastOpened?_kept_eq_iff]
        cases shows rule <;> simp
  · intro row
    simp only [placement?]
    cases row.getLast? with
    | none => rfl
    | some rule => cases shown : shows rule <;> simp [shown]

end Section
end Rulebook
