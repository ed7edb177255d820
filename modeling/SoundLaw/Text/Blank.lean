/-
  SoundLaw.Text.Blank

  White space: spaces, line ends, tabs and the information separators. A zero-width space is
  none of them.
-/
import SoundLaw.Text.Basic

namespace SoundLaw

/-- The white space characters. -/
def blanks : CodeRanges := [
  (0x9, 0xD), (0x1C, 0x20), (0x85, 0x85), (0xA0, 0xA0), (0x1680, 0x1680), (0x2000, 0x200A),
  (0x2028, 0x2029), (0x202F, 0x202F), (0x205F, 0x205F), (0x3000, 0x3000)]

/-- Whether a character is white space. -/
def isBlank (c : Char) : Bool := blanks.contains c

/-- A character is white space exactly if a range holds it. -/
theorem isBlank_iff {c : Char} :
    isBlank c = true ↔ ∃ r ∈ blanks, r.1 ≤ c.toNat ∧ c.toNat ≤ r.2 :=
  CodeRanges.contains_iff (by decide)

/-- A text without the characters at its end that satisfy `p`. -/
def Text.dropEndWhile (t : Text) (p : Char → Bool) : Text := (t.reverse.dropWhile p).reverse

/-- A text without the white space at its end. -/
def Text.stripEnd (t : Text) : Text := t.dropEndWhile isBlank

/-- A text without the white space around it. -/
def Text.strip (t : Text) : Text := Text.stripEnd (t.dropWhile isBlank)

end SoundLaw
