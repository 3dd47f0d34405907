import Rulebook.Toml.Number
import Rulebook.Toml.Value

/-!
# Scalars without quotes

Truth values, numbers and points in time.
-/

namespace Rulebook
namespace Toml

/-- The scalar that a text without quotes denotes. -/
def scalar? (text : List Char) : Option Value :=
  let written := String.ofList text
  if written = "true" then some (.truth true)
  else if written = "false" then some (.truth false)
  else
    match integer? text with
    | some value => some (.integer value)
    | none =>
        if isDecimal text then some (.decimal written)
        else (moment? text).map Value.moment

end Toml
end Rulebook
