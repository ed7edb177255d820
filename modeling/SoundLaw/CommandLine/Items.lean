/-
  SoundLaw.CommandLine.Items

  Arguments that hold several items: between commas, or else one on each line.
-/
import SoundLaw.Text.Blank

namespace SoundLaw

/-- A text without the occurrences of a character around it. -/
def Text.stripOf (t : Text) (c : Char) : Text := Text.dropEndWhile (t.dropWhile (· == c)) (· == c)

/-- The items of an argument, without the spaces around them if commas separate them. -/
def Text.items (t : Text) : List Text :=
  if ',' ∈ t then (t.split ',').map (Text.stripOf · ' ')
  else if '\n' ∈ t then (t.stripOf '\n').split '\n'
  else [t]

/-- The items of an argument with a space between each two. -/
def Text.segments (t : Text) : List Text := t.split ' '

end SoundLaw
