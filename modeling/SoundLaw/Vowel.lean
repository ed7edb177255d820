/-
  SoundLaw.Vowel

  Vowels and consonants. A character is a vowel by its base letter, whatever its case and its
  marks. The letters `y` and `w` are vowels in some spellings and consonants in others.
-/
import SoundLaw.Diacritic
import SoundLaw.Text.Case

namespace SoundLaw

/-- Which of the letters `y` and `w` count as vowels. -/
structure VowelSystem where
  includeY : Bool := false
  includeW : Bool := false
  deriving DecidableEq, Repr

namespace VowelSystem

/-- The system that tells vowels from consonants letter by letter: `y` is a vowel. -/
def lettered : VowelSystem := ⟨true, false⟩

/-- The vowel letters of a system. -/
def letters (v : VowelSystem) : Text :=
  ['a', 'e', 'i', 'o', 'u', 'œ'] ++ (if v.includeY then ['y'] else [])
    ++ (if v.includeW then ['w'] else [])

/-- Whether the first base letter of a text is a vowel. -/
def isVowel (v : VowelSystem) (t : Text) : Bool :=
  match t.nfd with
  | [] => false
  | c :: _ => v.letters.contains (lowerLetter c)

/-- How a system of vowels is shown. -/
def describe (v : VowelSystem) : String :=
  let shown (b : Bool) := if b then "True" else "False"
  "SyllableAnalyser(include_y=" ++ shown v.includeY ++ ", include_w=" ++ shown v.includeW ++ ")"

end VowelSystem

/-- Whether a text starts with a letter that is no vowel. -/
def isConsonant (t : Text) : Bool := !t.isEmpty && !VowelSystem.lettered.isVowel t

/-- The pattern of vowels and consonants of a text, `V` and `C` for its composed characters. -/
def Text.shape (t : Text) : Text :=
  t.nfc.map fun c => if VowelSystem.lettered.isVowel [c] then 'V' else 'C'

end SoundLaw
