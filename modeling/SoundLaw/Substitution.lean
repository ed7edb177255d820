/-
  SoundLaw.Substitution

  Substituting in a word what a variant matches. Each bound step writes its replacement in the
  spelling convention of the word. A phoneme that keeps its key keeps its spelling, a new phoneme
  takes over the diacritics that the rule does not mention, as far as they suit it, and an
  upper-case letter stays one.
-/
import SoundLaw.Match
import SoundLaw.Spelling.Convention
import SoundLaw.Vowel

namespace SoundLaw

/-! ## Replacements -/

/-- The literal that a bound step writes; nothing if it deletes its phoneme. -/
def Binding.literal (b : Binding) (captures : Captures) : Except Error (Option Text) :=
  match b.step.newCoindex with
  | some n =>
    match captures.lookup n with
    | some key => .ok (some key)
    | none => .error (.uncaptured n)
  | none =>
    match b.step.replace with
    | [] => .ok none
    | [literal] => .ok (some literal)
    | literals =>
      match literals[b.choice]? with
      | some literal => .ok (some literal)
      | none => .error .missingReplacement

/-- The marks of the phoneme that a bound step takes away: those that the rule asks for. -/
def Binding.droppedMarks (b : Binding) : Text :=
  b.step.oldMark ++ (b.step.find[b.choice]?.map Text.literalMarks).getD []

/-- The marks of the phoneme that go over to a literal. Only a vowel takes marks of vowels. -/
def Binding.carriedMarks (b : Binding) (p : Phoneme) (literal : Text) : Text :=
  let carried := p.marks.filter fun m => !b.droppedMarks.contains m
  if VowelSystem.lettered.isVowel literal.literalKey then carried else Text.withoutVowelMarks carried

/-- The base letters that a bound step writes for a literal. -/
def Binding.letters (b : Binding) (convention : Convention) (literal : Text) : Except Error Text :=
  match b.phoneme.filter (·.key == literal.literalKey) with
  | some p => .ok p.text.base
  | none => convention.render literal.base

/-- The marks that a bound step writes after the letters of a literal: its own ones, or else those
    of the phoneme. -/
def Binding.writtenMarks (b : Binding) (literal : Text) : Text :=
  if literal.literalMarks.isEmpty then
    match b.phoneme with
    | some p => b.carriedMarks p literal
    | none => []
  else literal.literalMarks

/-- The text that a bound step writes. -/
def Binding.render (b : Binding) (captures : Captures) (convention : Convention) :
    Except Error Text := do
  match ← b.literal captures with
  | none => return []
  | some literal =>
    let letters ← b.letters convention literal
    let written := letters ++ b.writtenMarks literal
    let marked :=
      if b.step.newMark.isEmpty || b.step.newMark == b.step.oldMark then written
      else written.withDiacritic b.step.newMark
    let capital := b.phoneme.any Phoneme.isUpper
    return Text.nfc (if capital then marked.capitalize else marked)

/-! ## Words -/

/-- The offset in a word where a match starts. -/
def Match.startOffset (m : Match) (ps : List Phoneme) (word : Text) : Nat :=
  match ps[m.start]? with
  | some p => p.start
  | none => word.length

/-- The offset in a word where a match stops. -/
def Match.stopOffset (m : Match) (ps : List Phoneme) (word : Text) : Nat :=
  if m.start < m.stop then
    match ps[m.stop - 1]? with
    | some p => p.stop
    | none => m.startOffset ps word
  else m.startOffset ps word

/-- Substitutes the first match of a variant in a word, spelled by the convention of the word if
    none is given. Nothing if the variant does not match. -/
def Variant.substitute (v : Variant) (word : Text) (convention : Option Convention) :
    Except Error (Option Text) := do
  let word := word.nfc
  let convention := convention.getD (Convention.detect word)
  let ps := phonemes DigraphTable.rules word
  match v.findMatch? ps with
  | none => return none
  | some m =>
    let written ← m.bindings.mapM fun b => b.render m.captures convention
    return some (Text.nfc (word.take (m.startOffset ps word) ++ written.flatten
      ++ word.drop (m.stopOffset ps word)))

/-- Applies a variant to a word; a word that the variant does not match stays as it is. -/
def Variant.apply (v : Variant) (word : Text) (convention : Option Convention) :
    Except Error Text := do
  return (← v.substitute word convention).getD word

/-- Substitutes by the first variant that matches. -/
def substituteFirst (word : Text) (convention : Option Convention) :
    List Variant → Except Error (Option Text)
  | [] => .ok none
  | v :: variants => do
    match ← v.substitute word convention with
    | some result => return some result
    | none => substituteFirst word convention variants

/-- Applies variants to a word until one of them changes it. -/
def applyUntilChanged (word : Text) (convention : Option Convention) :
    List Variant → Except Error Text
  | [] => .ok word
  | v :: variants => do
    let result ← v.apply word convention
    if result = word then applyUntilChanged word convention variants else return result

end SoundLaw
