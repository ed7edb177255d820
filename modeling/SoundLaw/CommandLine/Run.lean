/-
  SoundLaw.CommandLine.Run

  Carrying out commands: the lines that they print, and the table that a pass writes if it reads
  words from a table.
-/
import SoundLaw.CommandLine.Command
import SoundLaw.CommandLine.ControlSequence
import SoundLaw.CommandLine.Listing
import SoundLaw.CommandLine.Workspace
import SoundLaw.RuleSet.Book
import SoundLaw.Wordlist

namespace SoundLaw.CommandLine

/-- What a command prints, line by line, and the file that it writes, with its path. -/
structure Output where
  lines : List String
  written : Option (String × Text) := none

/-- A line as it is printed: without what would control the terminal. -/
def printedLine (line : String) : String := String.ofList (Text.withoutControls line.toList) ++ "\n"

/-- The text that is printed. -/
def Output.printed (o : Output) : String := String.join (o.lines.map printedLine)

/-- The result of an operation that has no failures of the command line. -/
def orFail {α : Type} : Except Error α → Except Failure α
  | .ok x => .ok x
  | .error e => .error (.failed e)

/-- A word and what has become of it. -/
def outcome (word result : Text) : String := String.ofList word ++ " -> " ++ String.ofList result

/-! ## Single rules -/

/-- The variants of a notation given as an argument. -/
def compileArgument (notated : Text) : Except Failure (List Variant) :=
  match SoundLaw.compile notated with
  | .ok variants => .ok variants
  | .error (.malformed fault) => .error (.badParameter fault.message)
  | .error e => .error (.failed e)

/-- Applies variants to a word and shows the outcome. -/
def applyLine (variants : List Variant) (word : Text) : Except Failure String := do
  return outcome word (← orFail (applyUntilChanged word none variants))

/-! ## Passes -/

/-- A word after a pass. -/
structure Evolved where
  word : Text
  result : Text
  changes : List Change

/-- A change on one line. -/
def changeLine (c : Change) : String :=
  "  " ++ c.orderId.plain ++ " " ++ String.ofList c.rule ++ ": " ++ outcome c.before c.after

/-- The changes of a word, and its outcome. -/
def Evolved.lines (e : Evolved) : List String :=
  e.changes.map changeLine ++ [outcome e.word e.result]

/-- Texts with commas between them. -/
def commaJoined : List Text → Text
  | [] => []
  | [t] => t
  | t :: ts => t ++ ',' :: commaJoined ts

/-- The row of a word in the table of a pass: the word, its outcome, and the rules that changed it. -/
def Evolved.row (e : Evolved) : List Text := [e.word, e.result, commaJoined (e.changes.map (·.rule))]

/-- The header of the table of a pass. -/
def evolvedHeader : List Text := ["word".toList, "evolved".toList, "rules".toList]

/-- A word after a pass of a rule set. -/
def evolveWord (s : RuleSet) (vowels : VowelSystem) (isCompound : Bool) (word : Text) :
    Except Failure Evolved := do
  let (result, changes) ← orFail (s.apply word vowels isCompound)
  return { word, result, changes }

/-- The directory that tables are written into unless another one is given. -/
def standardDirectory : String := "data/output"

/-- The book at a path: one of the books of the library, or an empty one in another file, the name
    of which must end as those of books do. -/
def bookAt (path : String) : Except Error Book :=
  match Book.all.find? (·.place == path) with
  | some book => .ok book
  | none =>
    let name := ((Text.split '/' (normalPath path).toList).getLast?).getD []
    if Book.suffix.isSuffixOf name && name != Book.suffix then .ok ⟨path, []⟩ else .error .notABook

/-- A workspace with the books of the library in it. Of their contents only the names of the rule
    sets are shown. -/
def Workspace.withBooks (w : Workspace) : Workspace :=
  w ++ Book.all.map fun book => (book.place, .file (book.sets.flatMap fun s => s.name ++ ['\n']))

/-- Refuses a path that cannot be used, and makes the directory to write into. -/
def usePath (w : Workspace) : PathUse × String → Except Failure Workspace
  | (.rules, path) | (.words, path) => do
    let _ ← w.read path
    return w
  | (.output, path) => do
    w.checkDirectory path
    return w.withDirectory path

/-- Refuses the paths of a pass, in the order in which they were given, if they cannot be used. -/
def Evolution.checkPaths (w : Workspace) (e : Evolution) : Except Failure PUnit := do
  let w ← e.paths.foldlM usePath w
  if (e.path? .output).isNone then w.makeDirectory standardDirectory

/-- The first rule set of a name in a book, with rules switched on and off. -/
def chooseRuleSet (book : Book) (e : Evolution) : Except Failure RuleSet := do
  match ← orFail (book.ruleSets (some e.ruleSet)) with
  | [] => .error (.usage
      ("No ruleset " ++ String.ofList e.ruleSet.quoted ++ " in " ++ book.place))
  | s :: _ =>
    match s.select e.enabled e.disabled with
    | .ok s => .ok s
    | .error error => .error (.badParameter
        (String.ofList (Text.quoted ((error.message?.getD "").toList))))

/-- Carries out a pass. Words from a table may be compounds each for itself, and they are not
    printed. -/
def Evolution.run (w : Workspace) (vowels : VowelSystem) (e : Evolution) :
    Except Failure Output := do
  e.checkPaths w
  let book ← orFail (((e.path? .rules).map bookAt).getD (.ok .standard))
  let s ← chooseRuleSet book e
  let evolved ← e.words.mapM (evolveWord s vowels e.isCompound)
  let lines := evolved.flatMap Evolved.lines
  match e.path? .words with
  | none => return { lines }
  | some path =>
    let listed ← orFail (Wordlist.read (← w.read path))
    let more ← listed.mapM fun l => evolveWord s vowels l.isCompound l.word
    let file := "evolved_" ++ String.ofList s.name ++ ".csv"
    let path := joinPath ((e.path? .output).getD standardDirectory) file
    let table := Delimited.write evolvedHeader ((evolved ++ more).map Evolved.row)
    return { lines, written := some (path, table) }

/-! ## Commands -/

/-- Carries out a command. -/
def Command.run (w : Workspace) (vowels : VowelSystem) : Command → Except Failure Output
  | .syllabify words isCompound =>
    .ok { lines := words.map fun word =>
      "·".intercalate ((vowels.syllabify word isCompound).map String.ofList) }
  | .analyse word isCompound => .ok { lines := syllableTable (vowels.analyse word isCompound) }
  | .compile notated => do
    let variants ← compileArgument notated
    return { lines := variants.map fun v => v.layout.place 0 0 }
  | .apply notated words => do
    let variants ← compileArgument notated
    return { lines := ← words.mapM (applyLine variants) }
  | .evolve e => e.run w vowels

/-- Reads the command of an invocation and carries it out. -/
def Invocation.run (w : Workspace) (i : Invocation) : Except Failure Output := do
  let w := w.withBooks
  i.logFile.forM w.checkAppend
  (← i.command).run w i.vowels

/-- Reads and carries out a command line. -/
def run (w : Workspace) (arguments : List String) : Except Failure Output := do
  (← Invocation.read arguments).run w

end SoundLaw.CommandLine
