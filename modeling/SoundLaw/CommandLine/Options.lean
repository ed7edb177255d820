/-
  SoundLaw.CommandLine.Options

  Options and positional arguments. An option has a long name, such as `--compound`, and perhaps a
  short one, such as `-c`. Short options can be run together, and a value can be attached to an
  option or follow it.
-/
import SoundLaw.Error

namespace SoundLaw.CommandLine

/-- Why a command line cannot be carried out. -/
inductive Failure
  /-- An operation failed. -/
  | failed (error : Error)
  /-- A parameter has a value that cannot be used. -/
  | badParameter (message : String)
  /-- The command line is not well formed. -/
  | usage (message : String)
  /-- A required argument is missing. -/
  | missingParameter
  /-- There is no such option. -/
  | noSuchOption (name : String)
  /-- An option lacks its value, or has one that it does not take. -/
  | badOptionUsage (message : String)
  /-- A file is to be written into a directory that is not there. -/
  | noDirectory (path : String)
  /-- A file stands where the path goes through a directory. -/
  | notADirectory (path : String)
  /-- A file stands where a directory is to be made. -/
  | fileExists (path : String)
  deriving DecidableEq, Repr

/-- A kind of option. -/
structure OptionKind where
  long : String
  short : Option Char := none
  takesValue : Bool := false
  deriving DecidableEq, Repr

/-- An option as it was given, by its long name. The value of a flag is empty. -/
structure GivenOption where
  name : String
  value : String := ""
  deriving DecidableEq, Repr

/-- The options that one argument gives, and an option that still lacks its value. -/
structure OptionGroup where
  given : List GivenOption := []
  pending : Option OptionKind := none

/-- Reads an argument of short options run together. -/
def readShort (kinds : List OptionKind) : List Char → Except Failure OptionGroup
  | [] => .ok {}
  | c :: rest =>
    match kinds.find? (·.short == some c) with
    | none => .error (.noSuchOption (String.ofList ['-', c]))
    | some kind =>
      if kind.takesValue then
        if rest.isEmpty then .ok { pending := some kind }
        else .ok { given := [{ name := kind.long, value := String.ofList rest }] }
      else do
        let group ← readShort kinds rest
        return { group with given := { name := kind.long } :: group.given }

/-- A long option and the value attached to it by an equals sign. -/
def splitLong (argument : String) : String × Option String :=
  match Text.cut? '=' argument.toList with
  | some (name, value) => (String.ofList name, some (String.ofList value))
  | none => (argument, none)

/-- Reads an argument that starts with a dash. -/
def readOption (kinds : List OptionKind) (argument : String) : Except Failure OptionGroup :=
  let (name, attached) := splitLong argument
  match kinds.find? (·.long == name), attached with
  | some kind, some value =>
    if kind.takesValue then .ok { given := [{ name, value }] }
    else .error (.badOptionUsage
      ("Option " ++ String.ofList (Text.quoted name.toList) ++ " does not take a value."))
  | some kind, none =>
    if kind.takesValue then .ok { pending := some kind } else .ok { given := [{ name }] }
  | none, _ =>
    match argument.toList with
    | '-' :: '-' :: _ => .error (.noSuchOption name)
    | _ :: short => readShort kinds short
    | [] => .ok {}

/-- The options and the positional arguments of a command line. -/
structure Arguments where
  options : List GivenOption := []
  positional : List String := []

/-- Whether an argument is an option. A dash alone is none. -/
def isOption (argument : String) : Bool :=
  match argument.toList with
  | '-' :: _ :: _ => true
  | _ => false

/-- Reads a command line. Unless options may stand between positional arguments, they end at the
    first one, and in any case after two dashes. -/
def Arguments.read (kinds : List OptionKind) (interspersed : Bool) :
    List String → Except Failure Arguments
  | [] => .ok {}
  | argument :: rest =>
    if argument = "--" then .ok { positional := rest }
    else if isOption argument then do
      let group ← readOption kinds argument
      match group.pending with
      | none =>
        let arguments ← read kinds interspersed rest
        return { arguments with options := group.given ++ arguments.options }
      | some kind =>
        match rest with
        | [] =>
          .error (.badOptionUsage
            ("Option " ++ String.ofList (Text.quoted argument.toList) ++ " requires an argument."))
        | value :: rest =>
          let arguments ← read kinds interspersed rest
          return { arguments with
            options := group.given ++ { name := kind.long, value } :: arguments.options }
    else if interspersed then do
      let arguments ← read kinds interspersed rest
      return { arguments with positional := argument :: arguments.positional }
    else .ok { positional := argument :: rest }

namespace Arguments

/-- Whether a flag was given. -/
def has (a : Arguments) (name : String) : Bool := a.options.any (·.name == name)

/-- All values of an option, in order. -/
def values (a : Arguments) (name : String) : List String :=
  (a.options.filter (·.name == name)).map (·.value)

/-- The last value of an option. -/
def value? (a : Arguments) (name : String) : Option String := (a.values name).getLast?

/-- The last choice between a flag and its opposite; no if neither was given. -/
def chooses (a : Arguments) (yes no : String) : Bool :=
  ((a.options.filter fun o => o.name == yes || o.name == no).getLast?.map (·.name)) == some yes

end Arguments

end SoundLaw.CommandLine
