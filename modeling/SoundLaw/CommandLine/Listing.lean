/-
  SoundLaw.CommandLine.Listing

  How variants and syllables are listed: variants as nested records, syllables as a table with
  columns aligned at the right.
-/
import SoundLaw.CommandLine.Layout
import SoundLaw.Syllable
import SoundLaw.Variant

namespace SoundLaw

/-! ## Variants -/

/-- A step as a record. Coindices and marks are left out where there are none, and a mark is shown
    in its spacing form. -/
def Step.layout (s : Step) : Layout :=
  let texts (ts : List Text) := Layout.list (ts.map Layout.quoted)
  let coindex (key : String) (n : Option Int) :=
    (n.map fun n => Layout.entry key (.atom (toString n))).toList
  let mark (key : String) (t : Text) :=
    if t.isEmpty then [] else [Layout.entry key (.quoted t.diacritic)]
  Layout.record <|
    [Layout.entry "find" (texts s.find), Layout.entry "replace" (texts s.replace)]
      ++ coindex "old_coindex" s.oldCoindex ++ coindex "new_coindex" s.newCoindex
      ++ mark "old_mark" s.oldMark ++ mark "new_mark" s.newMark
      ++ (if s.wildcard then [Layout.entry "wildcard" (.atom "True")] else [])

/-- A variant as a record. -/
def Variant.layout (v : Variant) : Layout :=
  Layout.record [
    Layout.entry "position" (.quoted v.position.name),
    Layout.entry "steps" (Layout.list (v.steps.map Step.layout))]

/-! ## Tables -/

/-- A text on one line: line ends and tabs are shown as escapes. -/
def oneLine (t : Text) : String :=
  String.ofList (t.flatMap fun c =>
    if c = '\n' then ['\\', 'n'] else if c = '\r' then ['\\', 'r']
    else if c = '\t' then ['\\', 't'] else [c])

/-- A text with blanks in front up to a width. -/
def alignRight (width : Nat) (s : String) : String :=
  String.ofList (List.replicate (width - s.length) ' ') ++ s

/-- The cells of a column, its header first, all as wide as the widest of them. -/
def alignColumn (cells : List String) : List String :=
  let width := (cells.map String.length).foldr max 0
  cells.map (alignRight width)

/-- The rows of a table of columns, with a blank between two columns. -/
def joinColumns : List (List String) → List String
  | [] => []
  | [column] => column
  | column :: columns => column.zipWith (fun a b => a ++ " " ++ b) (joinColumns columns)

/-- The table of the syllables of a word, one row for each. Truth values have a blank in front. -/
def syllableTable (syllables : List Syllable) : List String :=
  let column (header : String) (cell : Syllable → String) :=
    alignColumn (header :: syllables.map cell)
  joinColumns [
    column "syllable" fun s => oneLine s.text,
    column "onset" fun s => oneLine s.onset,
    column "nucleus" fun s => oneLine s.nucleus,
    column "coda" fun s => oneLine s.coda,
    column "weight" fun s => oneLine s.weight.name,
    column "structure" fun s => oneLine s.structureName,
    column " stressed" fun s => if s.isStressed then " True" else " False",
    column "shape" fun s => oneLine s.text.shape]

end SoundLaw
