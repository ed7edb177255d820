/-
  SoundLaw.Syllable

  Syllables and their prosody. A syllable is heavy if it has a long vowel or a diphthong or ends
  in a consonant, and closed if it ends in a consonant. The stress of a word of two syllables is
  on the first one, and that of a longer word on the last but one if it is heavy and on the one
  before otherwise.
-/
import SoundLaw.Syllable.Division
import SoundLaw.Text.Blank

namespace SoundLaw

/-! ## Weight -/

/-- The weight of a syllable. -/
inductive Weight
  | light
  | heavy
  deriving DecidableEq, Repr

/-- The name of a weight. -/
def Weight.name : Weight → Text
  | light => ['l', 'i', 'g', 'h', 't']
  | heavy => ['h', 'e', 'a', 'v', 'y']

/-- The marks of long vowels: macron, acute and circumflex. -/
def longMarks : Text := ['\u0304', '\u0301', '\u0302']

/-- Whether a vowel of a text has a mark of length. -/
def Text.hasLongVowel (t : Text) : Bool :=
  (phonemes DigraphTable.letters t).any fun p =>
    VowelSystem.isVowel {} p.key && p.marks.any longMarks.contains

/-- Whether a text occurs in another one. -/
def Text.occursIn (part : Text) : Text → Bool
  | [] => part.isEmpty
  | c :: t => part.isPrefixOf (c :: t) || part.occursIn t

/-- Whether a text has a legal diphthong in it, case and marks aside. -/
def Text.hasDiphthong (t : Text) : Bool :=
  diphthongs.any (Text.occursIn · t.withoutMarks.lower)

/-- Whether the last character of a text, white space aside, is a consonant. -/
def Text.endsInConsonant (t : Text) : Bool :=
  isConsonant (Text.withoutMarks (t.stripEnd.nth (-1)))

/-- The weight of a syllable. -/
def Text.weight (t : Text) : Weight :=
  if t.hasLongVowel || t.hasDiphthong || t.endsInConsonant then .heavy else .light

/-! ## Stress -/

/-- The place of the stressed syllable among syllables of these weights; none in a monosyllable. -/
def stressed? (weights : List Weight) : Option Nat :=
  if weights.length < 2 then none
  else if weights.length = 2 then some 0
  else if weights[weights.length - 2]? = some .heavy then some (weights.length - 2)
  else some (weights.length - 3)

/-! ## Analysis -/

/-- A syllable of a word. -/
structure Syllable where
  text : Text
  onset : Text
  nucleus : Text
  coda : Text
  weight : Weight
  isClosed : Bool
  isStressed : Bool
  deriving DecidableEq, Repr

/-- The name of the structure of a syllable. -/
def Syllable.structureName (s : Syllable) : Text :=
  if s.isClosed then ['c', 'l', 'o', 's', 'e', 'd'] else ['o', 'p', 'e', 'n']

/-- The syllable that a part of a word makes. Without a nucleus, all of it is onset. -/
def Syllable.ofPart (part : Part) (isStressed : Bool) : Syllable :=
  let (onset, nucleus, coda) := match part.nucleus with
    | none => (part.text, [], [])
    | some n =>
      ((part.phonemes.take n.start).flatMap Phoneme.text,
        ((part.phonemes.take n.stop).drop n.start).flatMap Phoneme.text,
        (part.phonemes.drop n.stop).flatMap Phoneme.text)
  { text := part.text
    onset, nucleus, coda
    weight := part.text.weight
    isClosed := part.text.endsInConsonant
    isStressed }

/-- The syllables of a word, with their weight and stress. -/
def VowelSystem.analyse (v : VowelSystem) (word : Text) (compound : Bool) : List Syllable :=
  let parts := v.divide word compound
  let stressed := stressed? (parts.map (·.text.weight))
  parts.zipIdx.map fun (part, i) => Syllable.ofPart part (stressed == some i)

end SoundLaw
