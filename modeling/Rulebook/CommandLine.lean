import Rulebook.Conversion

/-!
# The command line

The program takes a form, two grammar files, and where to find settings and documentation.  It
prints the rendering or writes it to a file.
-/

namespace Rulebook
namespace CommandLine

/-- Options without a value. -/
inductive Flag where
  /-- Render the listing. -/
  | text
  /-- Render the catalogue. -/
  | xml
  /-- Tell which program this is. -/
  | version
  /-- Tell how to use the program. -/
  | help
  deriving DecidableEq, Repr

/-- Options with a value. -/
inductive Setting where
  /-- The file of the parser rules. -/
  | parser
  /-- The file of the lexer rules. -/
  | lexer
  /-- The file to write. -/
  | output
  /-- The directory of documentation. -/
  | docs
  /-- The file of settings. -/
  | config
  deriving DecidableEq, Repr

/-- Why arguments are not accepted. -/
inductive UsageFault where
  /-- There are no arguments. -/
  | nothing
  /-- An argument has no meaning. -/
  | unexpected (argument : String)
  /-- A flag is given a value. -/
  | valueForFlag (flag : Flag)
  /-- An option lacks its value. -/
  | missingValue (setting : Setting)
  /-- A flag is given twice. -/
  | repeatedFlag (flag : Flag)
  /-- An option is given twice. -/
  | repeatedSetting (setting : Setting)
  /-- No form is chosen. -/
  | noFormat
  /-- Both forms are chosen. -/
  | bothFormats
  /-- A required option is missing. -/
  | missing (setting : Setting)
  deriving DecidableEq, Repr

/-- The name of a flag. -/
def Flag.name : Flag → String
  | text => "text"
  | xml => "xml"
  | version => "version"
  | help => "help"

/-- The name of an option. -/
def Setting.name : Setting → String
  | parser => "parser"
  | lexer => "lexer"
  | output => "output"
  | docs => "docs"
  | config => "config"

/-- The wording of a fault. -/
def UsageFault.message : UsageFault → String
  | nothing => "arguments are required"
  | unexpected argument => "unexpected argument '" ++ argument ++ "' found"
  | valueForFlag flag => "unexpected value for '--" ++ flag.name ++ "' found"
  | missingValue setting => "a value is required for '--" ++ setting.name ++ "'"
  | repeatedFlag flag => "the argument '--" ++ flag.name ++ "' cannot be used multiple times"
  | repeatedSetting setting =>
      "the argument '--" ++ setting.name ++ "' cannot be used multiple times"
  | noFormat => "one of '--text' and '--xml' is required"
  | bothFormats => "the argument '--text' cannot be used with '--xml'"
  | missing setting => "the option '--" ++ setting.name ++ "' is required"

/-- What is asked for by one argument. -/
inductive Request where
  /-- A flag. -/
  | flag (flag : Flag)
  /-- An option with its value. -/
  | setting (setting : Setting) (value : String)
  /-- An option whose value is the next argument. -/
  | awaiting (setting : Setting)
  deriving DecidableEq, Repr

/-- The flag of a long name. -/
def flagNamed? (name : String) : Option Flag :=
  [Flag.text, .xml, .version, .help].find? fun flag => flag.name == name

/-- The option of a long name. -/
def settingNamed? (name : String) : Option Setting :=
  [Setting.parser, .lexer, .output, .docs, .config].find? fun setting => setting.name == name

/-- The meaning of an argument behind its two dashes. -/
def longRequest (argument : String) (body : List Char) : Except UsageFault Request :=
  let name := body.takeWhile (· != '=')
  let value? : Option String :=
    match body.drop name.length with
    | [] => none
    | _ :: value => some (String.ofList value)
  match flagNamed? (String.ofList name), settingNamed? (String.ofList name), value? with
  | some flag, _, none => .ok (.flag flag)
  | some flag, _, some _ => .error (.valueForFlag flag)
  | none, some setting, some value => .ok (.setting setting value)
  | none, some setting, none => .ok (.awaiting setting)
  | none, none, _ => .error (.unexpected argument)

/-- The value behind the letter of an option, where an equals sign may separate the two. -/
def attachedRequest (setting : Setting) : List Char → Request
  | [] => .awaiting setting
  | '=' :: value => .setting setting (String.ofList value)
  | value => .setting setting (String.ofList value)

/-- The meaning of an argument behind its one dash. -/
def shortRequest (argument : String) : List Char → Except UsageFault Request
  | 'o' :: value => .ok (attachedRequest .output value)
  | 'c' :: value => .ok (attachedRequest .config value)
  | 'V' :: _ => .ok (.flag .version)
  | 'h' :: _ => .ok (.flag .help)
  | _ => .error (.unexpected argument)

/-- Does an argument look like an option?  A single dash does not. -/
def isOption (argument : String) : Bool :=
  match argument.toList with
  | '-' :: _ :: _ => true
  | _ => false

/-- The meaning of an argument that is not the value of the one before. -/
def request (argument : String) : Except UsageFault Request :=
  match argument.toList with
  | '-' :: '-' :: body => longRequest argument body
  | '-' :: letter :: value => shortRequest argument (letter :: value)
  | _ => .error (.unexpected argument)

/-- What the arguments so far ask for. -/
structure Choices where
  /-- The flags, of which none is repeated. -/
  flags : List Flag := []
  /-- The options with their values, of which none is repeated. -/
  settings : List (Setting × String) := []
  deriving DecidableEq, Repr

namespace Choices

/-- The value of an option. -/
def value? (choices : Choices) (setting : Setting) : Option String :=
  choices.settings.lookup setting

/-- Adds an option with its value. -/
def addSetting (choices : Choices) (setting : Setting) (value : String) :
    Except UsageFault Choices :=
  if (choices.value? setting).isSome then .error (.repeatedSetting setting)
  else .ok { choices with settings := choices.settings ++ [(setting, value)] }

/-- Adds a flag. -/
def addFlag (choices : Choices) (flag : Flag) : Except UsageFault Choices :=
  if choices.flags.contains flag then .error (.repeatedFlag flag)
  else .ok { choices with flags := choices.flags ++ [flag] }

/-- The value of an option that is required. -/
def required (choices : Choices) (setting : Setting) : Except UsageFault String :=
  match choices.value? setting with
  | some value => .ok value
  | none => .error (.missing setting)

/-- The form that the flags choose. -/
def format (choices : Choices) : Except UsageFault Format :=
  match choices.flags.contains .text, choices.flags.contains .xml with
  | true, true => .error .bothFormats
  | true, false => .ok .text
  | false, true => .ok .xml
  | false, false => .error .noFormat

end Choices

/-- A conversion that the arguments ask for. -/
structure Invocation where
  /-- The form of the rendering. -/
  format : Format
  /-- The file of the parser rules. -/
  parserPath : String
  /-- The file of the lexer rules. -/
  lexerPath : String
  /-- The file to write, if the rendering is not printed. -/
  output? : Option String := none
  /-- The directory of documentation. -/
  docs? : Option String := none
  /-- The file of settings. -/
  settings? : Option String := none
  deriving DecidableEq, Repr

/-- What the program is to do. -/
inductive Command where
  /-- Tell which program this is. -/
  | version
  /-- Tell how to use the program. -/
  | help
  /-- Convert files. -/
  | convert (invocation : Invocation)
  deriving DecidableEq, Repr

/-- The conversion that complete choices ask for. -/
def Choices.invocation (choices : Choices) : Except UsageFault Invocation := do
  let format ← choices.format
  let parserPath ← choices.required .parser
  let lexerPath ← choices.required .lexer
  return {
    format
    parserPath
    lexerPath
    output? := choices.value? .output
    docs? := choices.value? .docs
    settings? := choices.value? .config }

/-- Reads the arguments that are left.  A question about the program is answered at once. -/
def readArguments (choices : Choices) : List String → Except UsageFault Command
  | [] => do return .convert (← choices.invocation)
  | argument :: later =>
      if argument = "--" ∧ later.isEmpty then readArguments choices later
      else
        match request argument, later with
        | .error fault, _ => .error fault
        | .ok (.flag .version), _ => .ok .version
        | .ok (.flag .help), _ => .ok .help
        | .ok (.flag flag), later =>
            match choices.addFlag flag with
            | .error fault => .error fault
            | .ok choices => readArguments choices later
        | .ok (.setting setting value), later =>
            match choices.addSetting setting value with
            | .error fault => .error fault
            | .ok choices => readArguments choices later
        | .ok (.awaiting setting), [] => .error (.missingValue setting)
        | .ok (.awaiting setting), value :: later =>
            if isOption value then .error (.missingValue setting)
            else
              match choices.addSetting setting value with
              | .error fault => .error fault
              | .ok choices => readArguments choices later

/-- What the arguments ask for. -/
def parse (arguments : List String) : Except UsageFault Command :=
  if arguments.isEmpty then .error .nothing else readArguments {} arguments

/-- The name and the version of the program. -/
def versionLine : String :=
  "grammar-render 0.1.0\n"

/-- How to use the program. -/
def usage : String :=
  "Usage: grammar-render <--text|--xml> --parser <parser> --lexer <lexer> [-o <output>] " ++
    "[--docs <docs>] [-c <config>]\n"

/-- What a run of the program leaves behind besides files. -/
structure Outcome where
  /-- The exit code. -/
  exitCode : Nat
  /-- What is printed. -/
  output : String := ""
  /-- What is printed about an error. -/
  error? : Option String := none
  deriving DecidableEq, Repr

/-- Converts files and prints or writes the rendering. -/
def execute {Effect : Type → Type} [Monad Effect] (files : FileSystem Effect)
    (invocation : Invocation) : Effect Outcome := do
  let converted ← ExceptT.run do
    let settings ←
      match invocation.settings? with
      | some path => Conversion.loadSettings files path
      | none => pure {}
    Conversion.convert files invocation.format invocation.parserPath invocation.lexerPath settings
      invocation.docs?
  match converted, invocation.output? with
  | .error fault, _ => return { exitCode := 1, error? := some ("Error: " ++ fault.message) }
  | .ok text, none => return { exitCode := 0, output := text }
  | .ok text, some path =>
      match ← files.write path text with
      | .ok () => return { exitCode := 0 }
      | .error error =>
          return {
            exitCode := 1
            error? := some ("Error writing " ++ path ++ ": " ++ error.message) }

/-- Runs the program. -/
def run {Effect : Type → Type} [Monad Effect] (files : FileSystem Effect)
    (arguments : List String) : Effect Outcome :=
  match parse arguments with
  | .error fault => return { exitCode := 2, error? := some ("error: " ++ fault.message) }
  | .ok .version => return { exitCode := 0, output := versionLine }
  | .ok .help => return { exitCode := 0, output := usage }
  | .ok (.convert invocation) => execute files invocation

end CommandLine
end Rulebook
