import Rulebook.Settings
import Rulebook.Toml.Reader

/-!
# Settings from a file

A settings file names the settings that it changes.  Keys that are no settings are passed over, and
a value of the wrong kind is a fault.
-/

namespace Rulebook

/-- Why a text does not give settings. -/
inductive SettingsFault where
  /-- The text is not a settings file. -/
  | unreadable (fault : Toml.Fault)
  /-- A setting has a value of the wrong kind. -/
  | kind (key : String)
  deriving DecidableEq, Repr

/-- The wording of a fault. -/
def SettingsFault.message : SettingsFault → String
  | unreadable fault => fault.message
  | kind key => "invalid value for " ++ key

namespace Toml.Value

/-- A number that fits a machine word without sign. -/
def natural? : Value → Option Nat
  | integer value => if 0 ≤ value ∧ value < Int.ofNat (1 <<< 64) then some value.toNat else none
  | _ => none

/-- A text. -/
def text? : Value → Option String
  | text value => some value
  | _ => none

/-- Values of one kind in order. -/
def list? {Member : Type} (member? : Value → Option Member) : Value → Option (List Member)
  | array members => members.mapM member?
  | _ => none

/-- The keys with their values where a table is expected. -/
def entries? : Value → Option (List (String × Value))
  | table entries => some entries
  | moment value => some [(momentKey, text value.written)]
  | _ => none

/-- Values of one kind by key. -/
def map? {Member : Type} (member? : Value → Option Member) (value : Value) :
    Option (List (String × Member)) := do
  let entries ← value.entries?
  entries.mapM fun entry => (member? entry.2).map fun member => (entry.1, member)

end Toml.Value

namespace Settings

/-- The value of a key, or the default if the key is missing. -/
def decodeField {Member : Type} (entries : List (String × Toml.Value)) (key : String)
    (decode? : Toml.Value → Option Member) (default : Member) : Except SettingsFault Member :=
  match entries.lookup key with
  | none => .ok default
  | some value =>
      match decode? value with
      | some member => .ok member
      | none => .error (.kind key)

/-- A set of element positions. -/
def breakSet? (value : Toml.Value) : Option (List Nat) :=
  (value.list? Toml.Value.natural?).map breakSet

/-- The settings that a table of keys gives. -/
def ofTable (entries : List (String × Toml.Value)) : Except SettingsFault Settings := do
  let defaults : Settings := {}
  let number (key : String) (default : Nat) :=
    decodeField entries key Toml.Value.natural? default
  let names (key : String) (default : List String) :=
    decodeField entries key (Toml.Value.list? Toml.Value.text?) default
  return {
    columnBudget := ← number "column_budget" defaults.columnBudget
    textColumnBudget := ← number "text_column_budget" defaults.textColumnBudget
    sectionMarkerOffset := ← number "section_marker_offset" defaults.sectionMarkerOffset
    startRules := ← names "start_rules" defaults.startRules
    excludedRules := ← names "excluded_rules" defaults.excludedRules
    stopTerminals := ← names "stop_terminals" defaults.stopTerminals
    hiddenLexerModes := ← names "hidden_lexer_modes" defaults.hiddenLexerModes
    hiddenLexerPrefixes := ← names "hidden_lexer_prefixes" defaults.hiddenLexerPrefixes
    lineBreaks :=
      ← decodeField entries "custom_line_breaks" (Toml.Value.map? breakSet?) defaults.lineBreaks
    terminalLinks :=
      ← decodeField entries "terminal_links" (Toml.Value.map? Toml.Value.text?)
        defaults.terminalLinks }

/-- The settings that a text gives. -/
def ofText (text : String) : Except SettingsFault Settings :=
  match Toml.read text with
  | .error fault => .error (.unreadable fault)
  | .ok entries => ofTable entries

end Settings
end Rulebook
