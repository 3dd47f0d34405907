import Rulebook.Text.Occurrence
import Rulebook.Text.Quoted

/-!
# Expectations

Checks of what a computation gave, for tests of grammars and renderings: that it succeeded, that it
failed with a certain message, and that texts occur in a rendering in a certain order.
-/

namespace Rulebook

/-- An expectation that was not met. -/
inductive Disappointment where
  /-- There is an error instead of a value. -/
  | unexpectedError (message : String)
  /-- There is a value instead of an error. -/
  | unexpectedValue (value : String)
  /-- The message of an error lacks a part. -/
  | otherMessage (part message : String)
  /-- A text does not occur behind the ones before it. -/
  | notInOrder (needle haystack : String)
  deriving DecidableEq, Repr

/-- The wording of an expectation that was not met. -/
def Disappointment.message : Disappointment → String
  | unexpectedError message =>
      "\nTEST FAILED (Expected Success, but got Error):\nMessage: " ++ message ++ "\n"
  | unexpectedValue value =>
      "\nTEST FAILED (Expected Failure, but got Success):\nValue: " ++ Text.quoted value ++ "\n"
  | otherMessage part message =>
      "\nTEST FAILED (Error Message Mismatch):\nExpected part: " ++ Text.quoted part ++
        "\nActual msg:    " ++ Text.quoted message ++ "\n"
  | notInOrder needle haystack =>
      "\nTEST FAILED (Missing or out of order):\nExpected: " ++ Text.quoted needle ++ "\nIn:\n" ++
        haystack ++ "\n"

namespace Expectation

/-- The value of a computation that is expected to succeed; an error is shown by its message. -/
def success {Fault Value : Type} (message : Fault → String) (result : Except Fault Value) :
    Except Disappointment Value :=
  match result with
  | .ok value => .ok value
  | .error fault => .error (.unexpectedError (message fault))

/-- The error of a computation that is expected to fail. -/
def failure (result : Except String String) : Except Disappointment String :=
  match result with
  | .ok value => .error (.unexpectedValue value)
  | .error message => .ok message

/-- The error of a computation that is expected to fail with a part in its message. -/
def failureContaining (part : String) (result : Except String String) :
    Except Disappointment Unit :=
  match failure result with
  | .error disappointment => .error disappointment
  | .ok message =>
      if Text.contains message part then .ok () else .error (.otherMessage part message)

/-- The first of some texts that does not occur behind the ones before it. -/
def firstOutOfOrder? (haystack : List Char) : List String → Option String
  | [] => none
  | needle :: later =>
      match Text.splitAtFirst? needle.toList haystack with
      | some split => firstOutOfOrder? split.2 later
      | none => some needle

/-- Texts are expected to occur one behind the other. -/
def inOrder (haystack : String) (needles : List String) : Except Disappointment Unit :=
  match firstOutOfOrder? haystack.toList needles with
  | none => .ok ()
  | some needle => .error (.notInOrder needle haystack)

end Expectation
end Rulebook
