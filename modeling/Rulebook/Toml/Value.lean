import Rulebook.Toml.Moment

/-!
# Values of a settings file

What a key of a settings file can have as its value.  Numbers with a fraction are recognised but
stay as they are written, for no setting is made of them.
-/

namespace Rulebook
namespace Toml

/-- A value. -/
inductive Value where
  /-- Text. -/
  | text (value : String)
  /-- A whole number. -/
  | integer (value : Int)
  /-- A number with a fraction or an exponent, infinity or no number, as it is written. -/
  | decimal (written : String)
  /-- A truth value. -/
  | truth (value : Bool)
  /-- A point in time. -/
  | moment (value : Moment)
  /-- Values in order. -/
  | array (members : List Value)
  /-- Values by key, in order of appearance. -/
  | table (entries : List (String × Value))

/-- The key of a point in time where a table is expected: the point in time then counts as a table
that holds its canonical writing. -/
def momentKey : String :=
  "$__toml_private_datetime"

/-- Why a text is not a settings file. -/
inductive Fault where
  /-- A string, a comment or a bracket is wrong. -/
  | tokens
  /-- A line is neither a header nor a key with its value. -/
  | line (number : Nat)
  /-- A key has a value already, or its table is closed. -/
  | duplicate (number : Nat)
  deriving DecidableEq, Repr

/-- The wording of a fault. -/
def Fault.message : Fault → String
  | tokens => "invalid string, comment or bracket"
  | line number => "invalid line " ++ toString number
  | duplicate number => "duplicate key in line " ++ toString number

end Toml
end Rulebook
