/-
  SoundLaw.Notation.Halves

  The outer layout of a notation: an old and a new half around an arrow, each perhaps in square
  brackets, and the options of each half between bars.
-/
import SoundLaw.Error
import SoundLaw.Text.Blank

namespace SoundLaw

/-- A text without one pair of square brackets around it. -/
def Text.unbracketed : Text → Text
  | '[' :: t => if t.getLast? = some ']' then t.dropLast else '[' :: t
  | t => t

/-- A text without a pair of square brackets and the white space outside and inside of it. -/
def Text.stripBrackets (t : Text) : Text := Text.strip t.strip.unbracketed

/-- The old and the new half of a notation. -/
def splitHalves (notated : Text) : Except Error (Text × Text) :=
  match notated.split '>' with
  | [old, new] => .ok (old.stripBrackets, new.stripBrackets)
  | _ => .error (.malformed (.arrows notated))

/-- The options of a half. -/
def Text.options (half : Text) : List Text := (half.split '|').map Text.stripBrackets

/-- The options of the old and of the new half of a notation, of which there must be as many. -/
def splitOptions (notated : Text) : Except Error (List Text × List Text) := do
  let (old, new) ← splitHalves notated
  if old.options.length ≠ new.options.length then
    .error (.malformed (.options old.options.length new.options.length notated))
  else .ok (old.options, new.options)

end SoundLaw
