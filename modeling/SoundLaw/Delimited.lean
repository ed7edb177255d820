/-
  SoundLaw.Delimited

  Comma-separated tables. A cell is quoted if it holds a comma, a quotation mark or a line end, and
  a quotation mark in it is doubled. Reading takes any line ends, and leaves out blank lines.
-/
import SoundLaw.Error

namespace SoundLaw.Delimited

/-! ## Writing -/

/-- Whether a cell has to be quoted. -/
def needsQuotes (cell : Text) : Bool :=
  cell.any fun c => c == ',' || c == '"' || c == '\n' || c == '\r'

/-- A cell in quotation marks. -/
def quoteCell (cell : Text) : Text :=
  '"' :: cell.flatMap (fun c => if c = '"' then ['"', '"'] else [c]) ++ ['"']

/-- A cell as it is written. -/
def writeCell (cell : Text) : Text := if needsQuotes cell then quoteCell cell else cell

/-- Cells with commas between them. -/
def writeCells : List Text → Text
  | [] => []
  | [cell] => writeCell cell
  | cell :: cells => writeCell cell ++ ',' :: writeCells cells

/-- A row as it is written. A row of one empty cell is quoted, for it would be a blank line. -/
def writeRow (cells : List Text) : Text :=
  (if cells = [[]] then ['"', '"'] else writeCells cells) ++ ['\n']

/-- A row with empty cells at the end up to a width. -/
def fill (width : Nat) (row : List Text) : List Text :=
  row ++ List.replicate (width - row.length) []

/-- A table as it is written, the header first. -/
def write (header : List Text) (rows : List (List Text)) : Text :=
  (header :: rows.map (fill header.length)).flatMap writeRow

/-! ## Reading -/

/-- A cell as it is read. -/
structure Cell where
  text : Text
  isQuoted : Bool
  deriving DecidableEq, Repr

/-- What stands in quotation marks up to the closing one, and what follows; nothing if they are not
    closed. -/
def quotedPart? : Text → Option (Text × Text)
  | [] => none
  | '"' :: '"' :: t => (quotedPart? t).map fun (content, rest) => ('"' :: content, rest)
  | '"' :: t => some ([], t)
  | c :: t => (quotedPart? t).map fun (content, rest) => (c :: content, rest)

/-- Whether a character goes on with an unquoted cell. -/
def inCell (c : Char) : Bool := c != ',' && c != '\n' && c != '\r'

/-- The first cell of a text, and what follows; nothing if the cell has an open quotation mark. What
    stands between a closing quotation mark and the end of a cell belongs to it. -/
def readCell? : Text → Option (Cell × Text)
  | '"' :: t => (quotedPart? t).map fun (content, rest) =>
    (⟨content ++ rest.takeWhile inCell, true⟩, rest.dropWhile inCell)
  | t => some (⟨t.takeWhile inCell, false⟩, t.dropWhile inCell)

theorem length_le_of_quotedPart? {t content rest : Text}
    (h : quotedPart? t = some (content, rest)) : rest.length ≤ t.length := by
  fun_induction quotedPart? t generalizing content with
  | case1 => simp at h
  | case2 t ih =>
    obtain ⟨⟨inner, outer⟩, read, same⟩ := Option.map_eq_some_iff.1 h
    cases same
    exact Nat.le_trans (ih read) (Nat.le_add_right _ 2)
  | case3 t _ =>
    cases h
    exact Nat.le_succ _
  | case4 c t _ _ ih =>
    obtain ⟨⟨inner, outer⟩, read, same⟩ := Option.map_eq_some_iff.1 h
    cases same
    exact Nat.le_succ_of_le (ih read)

theorem length_le_of_readCell? {t rest : Text} {cell : Cell}
    (h : readCell? t = some (cell, rest)) : rest.length ≤ t.length := by
  unfold readCell? at h
  split at h
  · next t =>
    obtain ⟨⟨content, after⟩, read, same⟩ := Option.map_eq_some_iff.1 h
    cases same
    have dropped := (List.dropWhile_suffix inCell (l := after)).length_le
    have quoted := length_le_of_quotedPart? read
    simp only [List.length_cons]
    omega
  · cases h
    exact (List.dropWhile_suffix inCell).length_le

/-- The rows of a text. A line end closes a row and opens the next one only if something
    follows. -/
def readRows (t : Text) : Except Error (List (List Cell)) :=
  match _read : readCell? t with
  | none => .error .openQuote
  | some (cell, []) => .ok [[cell]]
  | some (cell, ',' :: rest) => do
    match ← readRows rest with
    | [] => return [[cell]]
    | row :: rows => return (cell :: row) :: rows
  | some (cell, '\r' :: '\n' :: rest) => do
    return [cell] :: (← if rest.isEmpty then .ok [] else readRows rest)
  | some (cell, _ :: rest) => do
    return [cell] :: (← if rest.isEmpty then .ok [] else readRows rest)
termination_by t.length
decreasing_by
  all_goals
    have h := length_le_of_readCell? _read
    simp only [List.length_cons] at h
    omega

/-- Whether a row is a blank line: one unquoted cell of spaces and tabs at most. -/
def isBlankRow : List Cell → Bool
  | [cell] => !cell.isQuoted && cell.text.all fun c => c == ' ' || c == '\t'
  | _ => false

/-- The rows of a table that are no blank lines, the header first. A byte order mark at the start is
    left out. -/
def read (t : Text) : Except Error (List (List Text)) := do
  let t := match t with
    | '\uFEFF' :: t => t
    | t => t
  if t.isEmpty then return []
  let rows ← readRows t
  return (rows.filter (!isBlankRow ·)).map fun row => row.map Cell.text

end SoundLaw.Delimited
