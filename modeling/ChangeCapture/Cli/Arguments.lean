import ChangeCapture.Files.Path
import ChangeCapture.Log
import ChangeCapture.Text.Case
import ChangeCapture.Text.Quoted
import ChangeCapture.Text.Similarity

namespace ChangeCapture.Cli

structure Place where
  root : Path
  specs : Option Path
  registry : Option Path
  flow : Option Path
  deriving DecidableEq, Repr

inductive Scope where
  | program
  | compile
  | verify
  | new
  deriving DecidableEq, Repr

inductive Command where
  | compile (spec : Path) (isDryRun : Bool) (place : Place)
  | verify (place : Place)
  | new (table : Text) (specs : Path)
  | help (scope : Scope)
  deriving DecidableEq, Repr

inductive UsageFault where
  | unknownOption (name : Text) (closest : List Text)
  | bareOption (name : Text)
  | assignedOption (name : Text)
  | missingArgument (name : Text)
  | extraArguments (arguments : List Text)
  | unknownCommand (name : Text) (closest : List Text)
  | missingCommand
  deriving DecidableEq, Repr

structure Usage where
  scope : Scope
  fault : UsageFault
  deriving DecidableEq, Repr

inductive Refusal where
  | usage (usage : Usage)
  | path (mishap : Mishap)
  deriving DecidableEq, Repr

def Scope.call : Scope → Text
  | .program => "cdcspec"
  | .compile => "cdcspec compile"
  | .verify => "cdcspec verify"
  | .new => "cdcspec new"

def Scope.form : Scope → Text
  | .program => "[OPTIONS] COMMAND [ARGS]..."
  | .compile => "[OPTIONS] SPEC_PATH"
  | .verify => "[OPTIONS]"
  | .new => "[OPTIONS] TABLE_NAME"

def Scope.usage (scope : Scope) : Text := "Usage: " ++ scope.call ++ " " ++ scope.form

namespace UsageFault

def hint : List Text → Text
  | [] => []
  | [only] => " Did you mean " ++ only.quoted ++ "?"
  | several => " (Did you mean one of: " ++ Text.joined ", " (several.map Text.quoted) ++ "?)"

def message : UsageFault → Text
  | .unknownOption name closest => "No such option " ++ name.quoted ++ "." ++ hint closest
  | .bareOption name => "Option " ++ name.quoted ++ " requires an argument."
  | .assignedOption name => "Option " ++ name.quoted ++ " does not take a value."
  | .missingArgument name => "Missing argument '" ++ name ++ "'."
  | .extraArguments [only] => "Got unexpected extra argument (" ++ only ++ ")"
  | .extraArguments several => "Got unexpected extra arguments (" ++ Text.joined " " several ++ ")"
  | .unknownCommand name closest => "No such command " ++ name.quoted ++ "." ++ hint closest
  | .missingCommand => "Missing command."

def showsForm : UsageFault → Bool
  | .bareOption _ | .assignedOption _ => false
  | _ => true

end UsageFault

def Usage.message (usage : Usage) : Text :=
  let form : Text :=
    if usage.fault.showsForm then
      usage.scope.usage ++ "\nTry '" ++ usage.scope.call ++ " --help' for help.\n\n"
    else []
  form ++ "Error: " ++ usage.fault.message

structure Switch where
  name : Text
  takesValue : Bool

structure Reading where
  options : List (Text × Text)
  arguments : List Text

def Reading.withOption (name value : Text) (reading : Reading) : Reading :=
  { reading with options := (name, value) :: reading.options }

def Reading.withArgument (argument : Text) (reading : Reading) : Reading :=
  { reading with arguments := argument :: reading.arguments }

def Reading.value? (reading : Reading) (name : Text) : Option Text :=
  (reading.options.reverse.find? fun option => option.1 = name).map Prod.snd

def isOption : Text → Bool
  | mark :: _ :: _ => mark = '-'
  | _ => false

-- The option that a word names: up to an equals sign after two dashes, and one
-- letter after a single dash.
def optionName (word : Text) : Text :=
  if Text.startsWith word "--" then word.takeWhile (· ≠ .char '=') else word.take 2

def assigned? (word : Text) : Option Text :=
  match word.dropWhile (· ≠ .char '=') with
  | _ :: value => some value
  | [] => none

def unknownOption (known : List Switch) (word : Text) : UsageFault :=
  let name := optionName word
  .unknownOption name (if Text.startsWith word "--" then Text.closest name (known.map Switch.name) else [])

-- Words up to two dashes are options or arguments; behind these all are
-- arguments. Where options may not follow an argument, the first one ends them.
-- `awaiting` is an option whose value is the next word, whatever that looks like.
def read (known : List Switch) (isMixed : Bool) (awaiting : Option Text) :
    List Text → Except UsageFault Reading
  | [] =>
    match awaiting with
    | some name => .error (.bareOption name)
    | none => .ok ⟨[], []⟩
  | word :: rest =>
    match awaiting with
    | some name => (read known isMixed none rest).map (Reading.withOption name word)
    | none =>
      if word = Text.ofString "--" then .ok ⟨[], rest⟩
      else if isOption word then
        match known.find? fun option => option.name = optionName word with
        | none => .error (unknownOption known word)
        | some option =>
          match option.takesValue, assigned? word with
          | true, some value => (read known isMixed none rest).map (Reading.withOption option.name value)
          | true, none => read known isMixed (some option.name) rest
          | false, some _ => .error (.assignedOption option.name)
          | false, none => (read known isMixed none rest).map (Reading.withOption option.name [])
      else if isMixed then (read known isMixed none rest).map (Reading.withArgument word)
      else .ok ⟨[], word :: rest⟩

def Reading.isHelp (reading : Reading) : Bool := (reading.value? "--help").isSome

-- The paths among the options are looked at in the order in which these were first
-- given, each with its last value. The options of a command that take a value all
-- take a path.
def Reading.checkPaths (reading : Reading) : Except Mishap Unit :=
  (reading.options.map Prod.fst).eraseDups.forM fun name => Path.checkText ((reading.value? name).getD [])

def helpSwitch : Switch := ⟨"--help", false⟩

def programSwitches : List Switch := [⟨"--log-level", true⟩, helpSwitch]

def placeSwitches : List Switch :=
  [⟨"--root", true⟩, ⟨"--specs-dir", true⟩, ⟨"--registry", true⟩, ⟨"--flow", true⟩, helpSwitch]

def placeOf (reading : Reading) : Place where
  root := .ofText ((reading.value? "--root").getD ".")
  specs := (reading.value? "--specs-dir").map .ofText
  registry := (reading.value? "--registry").map .ofText
  flow := (reading.value? "--flow").map .ofText

def told {α : Type} (scope : Scope) (result : Except UsageFault α) : Except Refusal α :=
  result.mapError fun fault => .usage ⟨scope, fault⟩

def firstArgument (name : Text) (reading : Reading) : Except UsageFault Text :=
  match reading.arguments with
  | [] => .error (.missingArgument name)
  | first :: _ => .ok first

def noMore (arguments : List Text) : Except UsageFault Unit :=
  if arguments.isEmpty then .ok () else .error (.extraArguments arguments)

def readCompile (words : List Text) : Except Refusal Command := do
  let reading ← told .compile (read (⟨"--dry-run", false⟩ :: placeSwitches) true none words)
  if reading.isHelp then return .help .compile
  reading.checkPaths.mapError .path
  let spec ← told .compile (firstArgument "SPEC_PATH" reading)
  (Path.checkText spec).mapError .path
  told .compile (noMore (reading.arguments.drop 1))
  return .compile (.ofText spec) (reading.value? "--dry-run").isSome (placeOf reading)

def readVerify (words : List Text) : Except Refusal Command := do
  let reading ← told .verify (read placeSwitches true none words)
  if reading.isHelp then return .help .verify
  reading.checkPaths.mapError .path
  told .verify (noMore reading.arguments)
  return .verify (placeOf reading)

def readNew (words : List Text) : Except Refusal Command := do
  let reading ← told .new (read [⟨"--specs-dir", true⟩, helpSwitch] true none words)
  if reading.isHelp then return .help .new
  reading.checkPaths.mapError .path
  let table ← told .new (firstArgument "TABLE_NAME" reading)
  told .new (noMore (reading.arguments.drop 1))
  return .new table (.ofText ((reading.value? "--specs-dir").getD "specs"))

def commandNames : List Text := ["compile", "verify", "new"]

-- A name that no command has is taken for an option of the program if it looks like
-- one, though it stands where only a command may stand.
def noCommand (name : Text) (words : List Text) : Except Refusal Command := do
  let reading ← told .program (read programSwitches false none (name :: words))
  if reading.isHelp then return .help .program
  .error (.usage ⟨.program, .unknownCommand name (Text.closest name commandNames)⟩)

def Command.ofWords : List Text → Except Refusal Command
  | [] => .error (.usage ⟨.program, .missingCommand⟩)
  | name :: words =>
    if name = Text.ofString "compile" then readCompile words
    else if name = Text.ofString "verify" then readVerify words
    else if name = Text.ofString "new" then readNew words
    else noCommand name words

structure Call where
  shown : Severity
  command : Command
  deriving DecidableEq, Repr

def Call.ofWords (words : List Text) : Except Refusal Call := do
  let reading ← told .program (read programSwitches false none words)
  let level := (reading.value? "--log-level").bind fun name => Severity.named? name.upper
  let command ← if reading.isHelp then .ok (.help .program) else Command.ofWords reading.arguments
  return ⟨level.getD .info, command⟩

end ChangeCapture.Cli
