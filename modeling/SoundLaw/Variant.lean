/-
  SoundLaw.Variant

  Compiled rules. A variant is one option of a rule: a row of steps, each of which matches and
  replaces one phoneme at most, and the position where they may match.
-/
import SoundLaw.Position

namespace SoundLaw

/-- What becomes of one slot. A step without literals to find inserts its replacement, one without
    replacement deletes the phoneme, and a wildcard does neither. -/
structure Step where
  /-- The literals that the step matches. -/
  find : List Text
  /-- The literals that it writes: one for all, or one for each literal to find. -/
  replace : List Text
  /-- The coindex under which the matched phoneme is captured. -/
  oldCoindex : Option Int := none
  /-- The coindex whose captured phoneme is written. -/
  newCoindex : Option Int := none
  /-- The marks that the matched phoneme must have. -/
  oldMark : Text := []
  /-- The diacritic put on what is written. -/
  newMark : Text := []
  wildcard : Bool := false
  deriving DecidableEq, Repr

/-- Whether a step matches a phoneme of the word. -/
def Step.consumes (s : Step) : Bool := !s.wildcard && !s.find.isEmpty

/-- One option of a compiled rule. -/
structure Variant where
  steps : List Step
  position : Position := .any
  deriving DecidableEq, Repr

/-- The number of steps with literals to find. -/
def Variant.width (v : Variant) : Nat := v.steps.countP fun s => !s.find.isEmpty

end SoundLaw
