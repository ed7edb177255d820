/-
  SoundLaw.Notation.Group

  Groups of alternatives. A group is written between braces; a brace that closes no group, or
  opens none, is plain text. A group of several phonemes gives way to a placeholder, so that the
  segment around it can be read character by character, and braces around a single phoneme are
  dropped.
-/
import SoundLaw.Notation.Coindex
import SoundLaw.Text.Blank
import SoundLaw.Text.Mark

namespace SoundLaw

/-! ## Pieces of a segment -/

/-- A piece of a segment: a character, or what stands between two braces. -/
inductive Piece
  | plain (c : Char)
  | braced (content : Text)
  deriving DecidableEq, Repr

/-- The pieces of a segment. An opening brace pairs with the first closing brace after it. -/
def pieces : Text → List Piece
  | [] => []
  | c :: t =>
    match _cut : if c = '{' then Text.cut? '}' t else none with
    | some (content, rest) => .braced content :: pieces rest
    | none => .plain c :: pieces t
termination_by t => t.length
decreasing_by
  · split at _cut
    · simp [Text.eq_append_of_cut? _cut]
      omega
    · simp at _cut
  · simp

namespace Piece

/-- A piece as it is written. -/
def text : Piece → Text
  | plain c => [c]
  | braced content => '{' :: content ++ ['}']

/-- Whether a piece is a brace that belongs to no group. -/
def isStray : Piece → Bool
  | plain c => c == '{' || c == '}'
  | braced _ => false

end Piece

/-- The pieces of a segment join to the segment. -/
theorem flatMap_text_pieces (t : Text) : (pieces t).flatMap Piece.text = t := by
  fun_induction pieces t with
  | case1 => rfl
  | case2 c t content rest cut ih =>
    split at cut
    · next opening => simp [Piece.text, ih, Text.eq_append_of_cut? cut, opening]
    · simp at cut
  | case3 c t cut ih => simp [Piece.text, ih]

/-! ## Phonemes and groups -/

/-- Whether a character is a phoneme of its own: no mark, no coindex and no space. -/
def isUnit (c : Char) : Bool := !isMark c && !isSubscript c && !isBlank c

/-- The number of phonemes of a prepared text. -/
def Text.countUnits (t : Text) : Nat := t.countP isUnit

/-- The character that takes the place of a group. -/
def placeholder : Char := '\uFFFC'

/-- A segment with each group of several phonemes replaced by the placeholder, and without the
    braces around single phonemes. -/
def Text.withoutGroups (t : Text) : Text :=
  (pieces t).flatMap fun
    | .plain c => [c]
    | .braced content => if 1 < content.countUnits then [placeholder] else content

/-- The contents of the groups of several phonemes, from left to right. -/
def Text.groups (t : Text) : List Text :=
  (pieces t).filterMap fun
    | .plain _ => none
    | .braced content => if 1 < content.countUnits then some content else none

end SoundLaw
