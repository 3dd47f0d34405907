import Rulebook.Document.Arena

/-!
# Usages of rules

While a document is built, an index collects which rules refer to which and where each is declared.
A reference may come before the declaration.  At the end every declared and used name gets the list
of its users.
-/

namespace Rulebook

/-- Where a name is declared and which rules refer to it. -/
structure UsageRecord where
  /-- The element that declares the name. -/
  anchor? : Option ElementId := none
  /-- The rules that refer to the name, by first reference. -/
  users : List String := []
  deriving DecidableEq, Repr

namespace UsageRecord

/-- The record with one more user; a user counts once. -/
def addUser (user : String) (usage : UsageRecord) : UsageRecord :=
  if usage.users.contains user then usage else { usage with users := usage.users ++ [user] }

/-- The record with another place of declaration. -/
def setAnchor (anchor : ElementId) (usage : UsageRecord) : UsageRecord :=
  { usage with anchor? := some anchor }

end UsageRecord

/-- The records of names, by first mention. -/
structure UsageIndex where
  /-- Names and their records. -/
  entries : List (String × UsageRecord) := []
  deriving DecidableEq, Repr

namespace UsageIndex

/-- Changes the record of a name, which is new if the name has none. -/
def updateEntries (name : String) (change : UsageRecord → UsageRecord) :
    List (String × UsageRecord) → List (String × UsageRecord)
  | [] => [(name, change {})]
  | (known, usage) :: later =>
      if known = name then (known, change usage) :: later
      else (known, usage) :: updateEntries name change later

/-- Changes the record of a name, which is new if the name has none. -/
def update (index : UsageIndex) (name : String) (change : UsageRecord → UsageRecord) :
    UsageIndex :=
  ⟨updateEntries name change index.entries⟩

/-- Notes that the rule `user` refers to `target`. -/
def reference (index : UsageIndex) (target user : String) : UsageIndex :=
  index.update target (UsageRecord.addUser user)

/-- Notes that an element declares a name. -/
def declare (index : UsageIndex) (name : String) (anchor : ElementId) : UsageIndex :=
  index.update name (UsageRecord.setAnchor anchor)

/-- The record of a name. -/
def get? (index : UsageIndex) (name : String) : Option UsageRecord :=
  index.entries.lookup name

/-- Adds a user to the list of users. -/
def appendUser (usages : ElementId) (document : Document) (user : String) : Document :=
  let (declaration, document) := document.appendElement usages "declaration"
  document.appendText declaration user

/-- Adds the list of users to the element that declares a name, if there are both. -/
def flushRecord (document : Document) (usage : UsageRecord) : Document :=
  match usage.anchor? with
  | none => document
  | some anchor =>
      if usage.users.isEmpty then document
      else
        let (usages, document) := document.appendElement anchor "usages"
        usage.users.foldl (appendUser usages) document

/-- Adds the lists of users to a document. -/
def flush (index : UsageIndex) (document : Document) : Document :=
  index.entries.foldl (fun document entry => flushRecord document entry.2) document

end UsageIndex
end Rulebook
