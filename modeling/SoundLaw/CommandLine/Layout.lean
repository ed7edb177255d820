/-
  SoundLaw.CommandLine.Layout

  Layout of nested data within 80 columns. A list or a record is written on one line if it fits, and
  with each item on a line of its own otherwise.
-/
import SoundLaw.Text.Quoted

namespace SoundLaw

/-- Something to lay out: how it is written on one line, and how it is broken over several ones. A
    break depends on the column where the item starts and on the columns to keep free after it. -/
structure Layout where
  flat : String
  broken : Nat → Nat → String

namespace Layout

/-- The last column but one. -/
def width : Nat := 80

/-- Lays something out from a column, with some columns kept free after it. -/
def place (l : Layout) (column free : Nat) : String :=
  if l.flat.length + column + free ≤ width then l.flat else l.broken column free

/-- Something that is never broken. -/
def atom (s : String) : Layout := ⟨s, fun _ _ => s⟩

/-- A text in quotation marks. -/
def quoted (t : Text) : Layout := atom (String.ofList t.quoted)

/-- A line end, with blanks up to a column. -/
def newLine (column : Nat) : String := "\n" ++ String.ofList (List.replicate column ' ')

/-- Items one below the other. Only the last one has more than a comma after it. -/
def stack (column free : Nat) : List Layout → String
  | [] => ""
  | [l] => l.place column free
  | l :: ls => l.place column 1 ++ "," ++ newLine column ++ stack column free ls

/-- A list in square brackets. -/
def list (ls : List Layout) : Layout where
  flat := "[" ++ ", ".intercalate (ls.map flat) ++ "]"
  broken column free := "[" ++ stack (column + 1) (free + 1) ls ++ "]"

/-- A value behind its key. -/
def entry (key : String) (l : Layout) : Layout :=
  let label := String.ofList (Text.quoted key.toList) ++ ": "
  { flat := label ++ l.flat
    broken := fun column free => label ++ l.place (column + label.length) free }

/-- A record in braces. -/
def record (entries : List Layout) : Layout where
  flat := "\x7b" ++ ", ".intercalate (entries.map flat) ++ "\x7d"
  broken column free := "\x7b" ++ stack (column + 1) (free + 1) entries ++ "\x7d"

end Layout

end SoundLaw
