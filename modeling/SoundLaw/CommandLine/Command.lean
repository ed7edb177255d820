/-
  SoundLaw.CommandLine.Command

  What a command line asks for. Options for all commands come first, then the command, then its own
  options and its arguments in any order.
-/
import SoundLaw.CommandLine.Items
import SoundLaw.CommandLine.Logging
import SoundLaw.CommandLine.Options
import SoundLaw.Vowel

namespace SoundLaw.CommandLine

/-! ## Commands -/

/-- What a path is given for. -/
inductive PathUse
  | rules
  | words
  | output
  deriving DecidableEq, Repr

/-- A pass of a rule set over words. -/
structure Evolution where
  words : List Text
  /-- The paths that were given, at most one for each use. -/
  paths : List (PathUse × String)
  ruleSet : Text
  enabled : List Text
  disabled : List Text
  isCompound : Bool
  deriving Repr

/-- The path given for a use. -/
def Evolution.path? (e : Evolution) (use : PathUse) : Option String := e.paths.lookup use

/-- A command. -/
inductive Command
  /-- Divide words into syllables. -/
  | syllabify (words : List Text) (isCompound : Bool)
  /-- List the syllables of a word. -/
  | analyse (word : Text) (isCompound : Bool)
  /-- List the variants of a rule. -/
  | compile (notated : Text)
  /-- Apply a rule to words. -/
  | apply (notated : Text) (words : List Text)
  /-- Apply a rule set to words. -/
  | evolve (evolution : Evolution)
  deriving Repr

/-- What holds for all commands, and the command with its arguments, which is not read yet. -/
structure Invocation where
  vowels : VowelSystem
  logging : Logging
  logFile : Option String
  arguments : List String

/-! ## Arguments -/

/-- Refuses arguments that are left over. -/
def noMore : List String → Except Failure PUnit
  | [] => .ok ⟨⟩
  | [a] => .error (.usage ("Got unexpected extra argument (" ++ a ++ ")"))
  | arguments =>
    .error (.usage ("Got unexpected extra arguments (" ++ " ".intercalate arguments ++ ")"))

/-- The only argument. -/
def single (arguments : List String) : Except Failure Text :=
  match arguments with
  | [] => .error .missingParameter
  | a :: rest => do
    noMore rest
    return a.toList

/-- All arguments, of which there must be some. -/
def several (arguments : List String) : Except Failure (List Text) :=
  if arguments.isEmpty then .error .missingParameter else .ok (arguments.map String.toList)

/-- The items of all values of an option. -/
def Arguments.items (a : Arguments) (name : String) : List Text :=
  (a.values name).flatMap fun value => Text.items value.toList

/-! ## Options -/

/-- The option that says that words are compounds. -/
def compoundOption : OptionKind := { long := "--compound", short := some 'c' }

/-- The options for all commands. -/
def commonOptions : List OptionKind := [
  { long := "--log-file", short := some 'l', takesValue := true },
  { long := "--verbose", short := some 'v' },
  { long := "--include-y" }, { long := "--no-include-y" },
  { long := "--include-w" }, { long := "--no-include-w" }]

/-- The options of a pass. -/
def evolutionOptions : List OptionKind := [
  { long := "--rules-file", short := some 'r', takesValue := true },
  { long := "--ruleset", short := some 's', takesValue := true },
  { long := "--words-file", short := some 'w', takesValue := true },
  { long := "--output-dir", short := some 'o', takesValue := true },
  { long := "--enable", short := some 'e', takesValue := true },
  { long := "--disable", short := some 'd', takesValue := true },
  compoundOption]

/-- What the path of an option is given for. -/
def PathUse.ofOption? (name : String) : Option PathUse :=
  if name = "--rules-file" then some .rules
  else if name = "--words-file" then some .words
  else if name = "--output-dir" then some .output
  else none

/-- The paths among options, in the order in which their uses are first mentioned. The last path
    for a use holds. -/
def Arguments.paths (a : Arguments) : List (PathUse × String) :=
  (a.options.map (·.name)).eraseDups.filterMap fun name => do
    return (← PathUse.ofOption? name, ← a.value? name)

/-! ## Reading -/

/-- The command of a name, with its options and arguments. -/
def Command.read (name : String) (rest : List String) : Except Failure Command :=
  match name with
  | "syllabify" => do
    let a ← Arguments.read [compoundOption] true rest
    return .syllabify (← several a.positional) (a.has "--compound")
  | "analyse" => do
    let a ← Arguments.read [compoundOption] true rest
    return .analyse (← single a.positional) (a.has "--compound")
  | "compile" => do
    let a ← Arguments.read [] true rest
    return .compile (← single a.positional)
  | "apply" => do
    let a ← Arguments.read [] true rest
    let words ← several (a.positional.drop 1)
    return .apply ((a.positional.headD "").toList) words
  | "evolve" => do
    let a ← Arguments.read evolutionOptions true rest
    return .evolve {
      words := a.positional.map String.toList
      paths := a.paths
      ruleSet := ((a.value? "--ruleset").getD "ancient_telerin").toList
      enabled := a.items "--enable"
      disabled := a.items "--disable"
      isCompound := a.has "--compound" }
  | _ => .error (.usage ("No such command " ++ String.ofList (Text.quoted name.toList) ++ "."))

/-- The command of an invocation. -/
def Invocation.command (i : Invocation) : Except Failure Command :=
  match i.arguments with
  | [] => .error (.usage "Missing command.")
  | name :: rest => Command.read name rest

/-- Reads the options for all commands. -/
def Invocation.read (arguments : List String) : Except Failure Invocation := do
  let a ← Arguments.read commonOptions false arguments
  return {
    vowels := ⟨a.chooses "--include-y" "--no-include-y", a.chooses "--include-w" "--no-include-w"⟩
    logging := Logging.configure (a.values "--verbose").length (a.has "--log-file")
    logFile := a.value? "--log-file"
    arguments := a.positional }

end SoundLaw.CommandLine
