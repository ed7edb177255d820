/-
  SoundLaw.Spelling.Convention

  The two spelling conventions of words: with digraphs, or with one character for each phoneme.
  A word with a stand-in in it follows the second one.
-/
import SoundLaw.Spelling.Folded

namespace SoundLaw

/-- A spelling convention. -/
inductive Convention
  | digraphs
  | single
  deriving DecidableEq, Repr

namespace Convention

/-- The name of a convention. -/
def name : Convention → Text
  | digraphs => ['d', 'i', 'g', 'r', 'a', 'p', 'h']
  | single => ['s', 'i', 'n', 'g', 'l', 'e']

/-- The convention of a name. -/
def ofName? (t : Text) : Except Error Convention :=
  if t = digraphs.name then .ok digraphs
  else if t = single.name then .ok single
  else .error (.unknownConvention t)

/-- The convention that a word follows. -/
def detect (word : Text) : Convention := if word.any isStandIn then single else digraphs

/-- A text spelled by a convention. -/
def render (convention : Convention) (t : Text) : Except Error Text :=
  match convention with
  | digraphs => .ok t.spelledOut
  | single => t.fold? DigraphTable.words

end Convention

end SoundLaw
