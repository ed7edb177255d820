/-
  SoundLaw.Wordlist

  Word lists: tables with a column of words, and perhaps one that says which of them are compounds.
  Other columns are left aside.
-/
import SoundLaw.Delimited

namespace SoundLaw

/-- A word of a list, and whether it is a compound. -/
structure ListedWord where
  word : Text
  isCompound : Bool
  deriving DecidableEq, Repr

namespace Wordlist

/-- The texts that stand for a missing word. -/
def missingWords : List Text :=
  ["", "#N/A", "#N/A N/A", "#NA", "-1.#IND", "-1.#QNAN", "-NaN", "-nan", "1.#IND", "1.#QNAN",
    "<NA>", "N/A", "NA", "NULL", "NaN", "None", "n/a", "nan", "null"].map String.toList

/-- The word in a cell, if there is one. -/
def word? (cell : Option Text) : Except Error Text :=
  match cell with
  | some t => if missingWords.contains t then .error .invalid else .ok t
  | none => .error .invalid

/-- The truth value in a cell, if there is one. -/
def flag? (cell : Option Text) : Except Error Bool :=
  match cell.map String.ofList with
  | some "True" | some "TRUE" | some "true" => .ok true
  | some "False" | some "FALSE" | some "false" => .ok false
  | _ => .error .invalid

/-- The words of a table with this header. A column of compounds must not be empty. If the first row
    is longer than the header, so many cells at the start of each row belong to no column. -/
def ofRows (header : List Text) (rows : List (List Text)) : Except Error (List ListedWord) :=
  let extra := ((rows.head?.map List.length).getD 0) - header.length
  let cell (row : List Text) (column : Nat) : Option Text := row[extra + column]?
  match header.idxOf? "word".toList, header.idxOf? "compound".toList with
  | none, _ => .error .invalid
  | some word, none => rows.mapM fun row => do
    return { word := ← word? (cell row word), isCompound := false }
  | some word, some compound =>
    if rows.isEmpty then .error .invalid
    else rows.mapM fun row => do
      return { word := ← word? (cell row word), isCompound := ← flag? (cell row compound) }

/-- Reads a word list. -/
def read (table : Text) : Except Error (List ListedWord) := do
  match ← Delimited.read table with
  | [] => .error .emptyTable
  | header :: rows => ofRows header rows

end Wordlist

end SoundLaw
