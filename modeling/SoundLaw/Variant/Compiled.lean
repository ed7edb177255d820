/-
  SoundLaw.Variant.Compiled

  From notation to variants: one for each option, all at the position that the old half gives.
-/
import SoundLaw.Variant.Alignment

namespace SoundLaw

/-- The variant of an old and a new form. -/
def Variant.ofForms (position : Position) (old new : Form) : Except Error Variant := do
  let steps ← align old new
  return { steps, position }

/-- The variant of an old and a new segment. -/
def Variant.ofSegments (position : Position) (old new : Text) : Except Error Variant := do
  let oldForm ← Form.parse old
  let newForm ← Form.parse new
  Variant.ofForms position oldForm newForm

/-- The variants of a rule, by its notation. -/
def compile (notated : Text) : Except Error (List Variant) := do
  let (oldHalf, _) ← splitHalves notated
  let (old, new) ← splitOptions notated
  (old.zip new).mapM fun (oldSegment, newSegment) =>
    Variant.ofSegments (Position.ofHalf oldHalf) oldSegment newSegment

end SoundLaw
