/-
  SoundLaw.Syllable.Division

  Dividing a word into syllables. Every nucleus makes a syllable. Vowels in hiatus are divided, a
  single consonant goes to the next syllable, two are shared out, three leave a legal onset
  together, and longer runs are cut in the middle.
-/
import SoundLaw.Syllable.Nucleus

namespace SoundLaw

/-! ## Onsets -/

/-- The pairs of consonants that may begin a syllable, in plain and in lenited words. -/
def onsetClusters : List Text := [
  ['b', 'l'], ['b', 'r'], ['c', 'l'], ['c', 'r'], ['d', 'r'], ['f', 'l'], ['g', 'l'], ['g', 'r'],
  ['g', 'w'], ['k', 'l'], ['k', 'r'], ['p', 'r'], ['t', 'r'],
  ['x', 'l'], ['x', 'r'], ['ð', 'r'], ['f', 'r'], ['m', 'l'], ['m', 'r'], ['θ', 'l'], ['θ', 'r'],
  ['v', 'l'], ['v', 'r']]

/-- Whether phonemes may begin a syllable together. -/
def isOnset (cluster : List Phoneme) : Bool := onsetClusters.contains (cluster.flatMap Phoneme.key)

/-! ## Boundaries -/

/-- The place of the syllable boundary between two successive nuclei. -/
def boundary (ps : List Phoneme) (left right : Nucleus) : Nat :=
  match right.start - left.stop with
  | 0 => right.start
  | 1 => left.stop
  | 2 => left.stop + 1
  | 3 => if isOnset ((ps.drop (left.stop + 1)).take 2) then left.stop + 1 else left.stop + 2
  | n => left.stop + n / 2

/-- The places where syllables start, and the end of the word. -/
def boundaries (ps : List Phoneme) (nuclei : List Nucleus) : List Nat :=
  0 :: nuclei.zipWith (boundary ps) nuclei.tail ++ [ps.length]

/-! ## Parts of a word -/

/-- A part of a word that makes a syllable. -/
structure Part where
  text : Text
  phonemes : List Phoneme
  /-- The nucleus, counted from the first phoneme of the part. -/
  nucleus : Option Nucleus
  deriving DecidableEq, Repr

/-- The part of a word between two places, around a nucleus. -/
def Part.between (word : Text) (ps : List Phoneme) (start stop : Nat) (nucleus : Nucleus) : Part :=
  let inside := (ps.drop start).take (stop - start)
  let text := match inside.head?, inside.getLast? with
    | some first, some last => (word.take last.stop).drop first.start
    | _, _ => []
  { text
    phonemes := inside
    nucleus := some ⟨nucleus.start - start, nucleus.stop - start⟩ }

/-- The table by which a word is read for syllables. In a compound every letter stands for itself,
    because a digraph may span the boundary between its members. -/
def DigraphTable.forSyllables (compound : Bool) : DigraphTable :=
  if compound then letters else syllables

/-- The parts of a word, one for each nucleus. A word with one nucleus or none is one part. -/
def VowelSystem.divide (v : VowelSystem) (word : Text) (compound : Bool) : List Part :=
  let ps := phonemes (DigraphTable.forSyllables compound) word
  let nuclei := v.nuclei ps
  if nuclei.length < 2 then [{ text := word, phonemes := ps, nucleus := nuclei.head? }]
  else
    let starts := boundaries ps nuclei
    (starts.zip starts.tail).zipWith
      (fun (start, stop) nucleus => Part.between word ps start stop nucleus) nuclei

/-- The syllables of a word. -/
def VowelSystem.syllabify (v : VowelSystem) (word : Text) (compound : Bool) : List Text :=
  (v.divide word compound).map Part.text

end SoundLaw
