/-
  SoundLaw.Error

  What can go wrong, by cause. The faults of a rule's notation are kept apart from the rest,
  because a rule set leaves out a rule with such a fault and goes on.
-/
import SoundLaw.Notation.Slot

namespace SoundLaw

/-! ## Faults of notation -/

/-- Why the notation of a rule cannot be compiled. -/
inductive Fault
  /-- The notation does not have exactly one arrow. -/
  | arrows (notated : Text)
  /-- The halves of the notation have different numbers of options. -/
  | options (old new : Nat) (notated : Text)
  /-- The braces of a segment do not pair up. -/
  | braces (segment : Text)
  /-- A mark or a coindex stands before the first slot of a segment. -/
  | dangling (attachment : Char) (segment : Text)
  /-- The forms have different numbers of slots. -/
  | lengths (old new : Nat)
  /-- A coindex follows a slot that stands for no phoneme. -/
  | emptyCoindex (n : Nat) (symbol : Symbol)
  /-- A wildcard stands opposite a slot of another kind. -/
  | loneWildcard (old new : Slot)
  /-- The new form has a coindex that the old form does not have. -/
  | undeclared (n : Nat)
  /-- The slots of a pair have numbers of alternatives that do not go together. -/
  | alternatives (old new : List Text)
  deriving DecidableEq, Repr

/-- How messages show a list of phonemes. -/
def describeList : List Text → String
  | [] => "()"
  | [t] => "(" ++ String.ofList t.quoted ++ ",)"
  | ts => "(" ++ ", ".intercalate (ts.map fun t => String.ofList t.quoted) ++ ")"

/-- The message of a fault. -/
def Fault.message : Fault → String
  | arrows notated => "A rule needs exactly one '>': " ++ String.ofList notated.quoted
  | options old new notated =>
    "Mismatched number of '|'-separated options: " ++ toString old ++ " != " ++ toString new
      ++ " in " ++ String.ofList notated.quoted
  | braces segment => "Unbalanced braces in " ++ String.ofList segment.quoted
  | dangling c segment =>
    String.ofList (Text.quoted [c]) ++ " does not follow a phoneme in "
      ++ String.ofList segment.quoted
  | lengths old new =>
    "Mismatched lengths after extracting group patterns: " ++ toString old ++ " != "
      ++ toString new
  | emptyCoindex n symbol =>
    "Coindex " ++ toString n ++ " cannot follow a " ++ symbol.name ++ " slot"
  | loneWildcard old new =>
    "A wildcard must be on both sides of the rule: " ++ old.describe ++ " / " ++ new.describe
  | undeclared n => "Coindex " ++ toString n ++ " is not declared in the old form"
  | alternatives old new =>
    "Cannot align " ++ toString old.length ++ " alternatives with " ++ toString new.length
      ++ ": " ++ describeList old ++ " > " ++ describeList new

/-! ## All errors -/

/-- Why an operation has no result. -/
inductive Error
  /-- A digraph was read that the table lists in another case only; its lower-case spelling. -/
  | unlistedDigraph (spelling : Text)
  /-- The notation of a rule is faulty. -/
  | malformed (fault : Fault)
  /-- A segment has more group placeholders than there are groups. -/
  | missingGroup
  /-- A step writes the phoneme of a coindex that no step captured. -/
  | uncaptured (coindex : Int)
  /-- A step has fewer replacements than the alternative it matched needs. -/
  | missingReplacement
  /-- There is no position of this name. -/
  | unknownPosition (name : Text)
  /-- There is no spelling convention of this name. -/
  | unknownConvention (name : Text)
  /-- A record, a step or a word list is not valid. -/
  | invalid
  /-- A record has a field that rules do not have. -/
  | unknownField
  /-- The record of a rule has no name or no notation. -/
  | missingField
  /-- The notation of a rule is no text. -/
  | notAText
  /-- Something other than a rule or a valid record was added to a rule set. -/
  | notARule
  /-- The order keys of a rule set cannot be compared. -/
  | incomparable
  /-- A rule set has no rule of this name. -/
  | unknownRule (name set : Text)
  /-- A rule has a condition that cannot be asked. -/
  | notACondition
  /-- A value has no items. -/
  | notAList
  /-- A table of words has no header. -/
  | emptyTable
  /-- The quotation marks of a cell are not closed. -/
  | openQuote
  /-- The file of a rule book is of another type. -/
  | notABook
  deriving DecidableEq, Repr

/-- The message of an error, for the errors that have one. -/
def Error.message? : Error → Option String
  | unlistedDigraph spelling => some (String.ofList spelling)
  | malformed fault => some fault.message
  | missingGroup => some "pop from empty list"
  | uncaptured n => some (toString n)
  | missingReplacement => some "tuple index out of range"
  | unknownPosition name => some (String.ofList name.quoted ++ " is not a valid Position")
  | unknownConvention name => some (String.ofList name.quoted ++ " is not a valid SpellingMode")
  | notARule => some "Invalid rule arguments"
  | unknownRule name set =>
    some ("No rule named " ++ String.ofList name.quoted ++ " in " ++ String.ofList set)
  | invalid | unknownField | missingField | notAText | incomparable | notACondition | notAList
  | emptyTable | openQuote | notABook => none

end SoundLaw
