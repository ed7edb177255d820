/-
  SoundLaw.Record.Step

  Steps as they are written down by hand, field by field, with values of any kind.
-/
import SoundLaw.Error
import SoundLaw.Record

namespace SoundLaw

/-- A value if it is true, and null otherwise. -/
def Value.ifTrue (v : Value) : Value := if v.isTrue then v else .null

/-- A step with a value of any kind in each field. A field is not set if its value is null. -/
structure StepRecord where
  find : List Value
  replace : List Value
  oldCoindex : Value := .null
  newCoindex : Value := .null
  oldMark : Value := .null
  newMark : Value := .null
  wildcard : Value := .null

namespace StepRecord

/-- A step in which a mark is set only if it is not empty, and the sign of a wildcard only if it is
    true. -/
def trimmed (s : StepRecord) : StepRecord :=
  { s with
    oldMark := s.oldMark.ifTrue
    newMark := s.newMark.ifTrue
    wildcard := if s.wildcard.isTrue then .flag true else .null }

/-- Whether literals and marks are texts and coindices numbers, as far as they are set. -/
def isValid (s : StepRecord) : Bool :=
  s.find.all Value.isText && s.replace.all Value.isText
    && [s.oldCoindex, s.newCoindex].all (fun v => v.isNull || v.isNumber)
    && [s.oldMark, s.newMark].all fun v => v.isNull || v.isText

/-- A step with the fields that are set, which must be valid. -/
def checked (s : StepRecord) : Except Error StepRecord :=
  if s.trimmed.isValid then .ok s.trimmed else .error .invalid

end StepRecord

end SoundLaw
