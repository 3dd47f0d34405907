import Rulebook.Catalogue.Assembly
import Rulebook.Files.Access
import Rulebook.Listing.Assembly
import Rulebook.Notation.Grammar
import Rulebook.Settings.Decoding

/-!
# Renderings and conversions

A grammar is rendered as a listing or as a catalogue.  A conversion reads its grammar, and for a
catalogue its documentation, from files.
-/

namespace Rulebook

/-- The two forms of a rendering. -/
inductive Format where
  /-- The plain listing. -/
  | text
  /-- The catalogue. -/
  | xml
  deriving DecidableEq, Repr

/-- A name that is not the name of a form. -/
structure UnknownFormat where
  /-- The name. -/
  name : String
  deriving DecidableEq, Repr

/-- The wording of the fault. -/
def UnknownFormat.message (fault : UnknownFormat) : String :=
  "unknown format '" ++ fault.name ++ "', expected 'text' or 'xml'"

/-- The form of a name. -/
def Format.ofName (name : String) : Except UnknownFormat Format :=
  if name = "text" then .ok .text
  else if name = "xml" then .ok .xml
  else .error ⟨name⟩

/-- The rendering of a grammar. -/
def render (grammar : Grammar) (format : Format) (settings : Settings) (docs : Docs) :
    Except MissingOperand String :=
  match format with
  | .text => Listing.ofGrammar grammar settings
  | .xml => Catalogue.ofGrammar grammar settings docs

/-- Why files cannot be converted. -/
inductive ConversionFault where
  /-- The settings file cannot be read. -/
  | settingsFile (path : String) (error : FileError)
  /-- The settings file does not give settings. -/
  | settings (path : String) (fault : SettingsFault)
  /-- A grammar file cannot be read. -/
  | grammarFile (path : String) (error : FileError)
  /-- The grammar files do not hold a grammar. -/
  | grammar (fault : GrammarFault)
  /-- The grammar cannot be rendered. -/
  | rendering (fault : MissingOperand)
  deriving DecidableEq, Repr

/-- The wording of a fault. -/
def ConversionFault.message : ConversionFault → String
  | settingsFile path error => "Failed to read config file at " ++ path ++ ": " ++ error.message
  | settings path fault => "Failed to parse config file at " ++ path ++ ": " ++ fault.message
  | grammarFile path error => "Failed to read grammar file at " ++ path ++ ": " ++ error.message
  | grammar fault => "Invalid grammar notation: " ++ fault.message
  | rendering fault => fault.message

namespace Conversion

/-- The directory from which the paths of grammar files start. -/
def baseDirectory : String :=
  "."

/-- Reads settings from a file. -/
def loadSettings {Effect : Type → Type} [Monad Effect] (files : FileSystem Effect)
    (path : String) : ExceptT ConversionFault Effect Settings := do
  match ← files.read path with
  | .error error => throw (.settingsFile path error)
  | .ok text =>
      match Settings.ofText text with
      | .error fault => throw (.settings path fault)
      | .ok settings => return settings

/-- Reads the text of a grammar file. -/
def readGrammarFile {Effect : Type → Type} [Monad Effect] (files : FileSystem Effect)
    (path : String) : ExceptT ConversionFault Effect String := do
  let path := Path.join baseDirectory path
  match ← files.read path with
  | .error error => throw (.grammarFile path error)
  | .ok text => return text

/-- Reads a grammar; both files are read before either is looked at. -/
def loadGrammar {Effect : Type → Type} [Monad Effect] (files : FileSystem Effect)
    (parserPath lexerPath : String) : ExceptT ConversionFault Effect Grammar := do
  let parserText ← readGrammarFile files parserPath
  let lexerText ← readGrammarFile files lexerPath
  match Grammar.ofTexts parserText lexerText with
  | .error fault => throw (.grammar fault)
  | .ok grammar => return grammar

/-- Reads the documentation that a rendering can show. -/
def loadDocs {Effect : Type → Type} [Monad Effect] (files : FileSystem Effect)
    (format : Format) (directory? : Option String) (grammar : Grammar) (settings : Settings) :
    Effect Docs :=
  match format, directory? with
  | .xml, some directory => Docs.load files directory (Catalogue.keys grammar settings)
  | _, _ => return Docs.none

/-- Reads two grammar files and renders their grammar. -/
def convert {Effect : Type → Type} [Monad Effect] (files : FileSystem Effect) (format : Format)
    (parserPath lexerPath : String) (settings : Settings) (directory? : Option String) :
    ExceptT ConversionFault Effect String := do
  let grammar ← loadGrammar files parserPath lexerPath
  let docs ← (loadDocs files format directory? grammar settings : Effect Docs)
  match render grammar format settings docs with
  | .error fault => throw (.rendering fault)
  | .ok output => return output

end Conversion
end Rulebook
