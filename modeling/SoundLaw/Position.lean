/-
  SoundLaw.Position

  Where in a word a rule may match. A wildcard at the end of a rule's old half stands for the rest
  of the word, so the rule matches at its start; one at the beginning ties it to the end.
-/
import SoundLaw.Notation.Halves

namespace SoundLaw

/-- Where in a word a rule may match. -/
inductive Position
  /-- At the start of the word. -/
  | initial
  /-- Neither at the start nor at the end. -/
  | medial
  /-- At the end of the word. -/
  | final
  /-- Anywhere. -/
  | any
  deriving DecidableEq, Repr

namespace Position

/-- The name of a position. -/
def name : Position → Text
  | initial => ['i', 'n', 'i', 't', 'i', 'a', 'l']
  | medial => ['m', 'e', 'd', 'i', 'a', 'l']
  | final => ['f', 'i', 'n', 'a', 'l']
  | any => ['a', 'n', 'y']

/-- The position of a name. -/
def ofName? (t : Text) : Except Error Position :=
  match [initial, medial, final, any].find? (·.name == t) with
  | some position => .ok position
  | none => .error (.unknownPosition t)

/-- The position that the wildcards around an old half give. A wildcard alone counts as one at the
    end. -/
def ofHalf (old : Text) : Position :=
  let old := old.stripBrackets
  let leading := old.head? == some '-'
  let trailing := old.getLast? == some '-'
  if leading && trailing && 1 < old.length then medial
  else if trailing then initial
  else if leading then final
  else any

end Position

end SoundLaw
