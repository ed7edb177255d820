/-
  SoundLaw.Syllable.Nucleus

  Syllable nuclei, from left to right: a legal diphthong wherever one starts, and otherwise each
  vowel by itself. The elements of a diphthong stay together.
-/
import SoundLaw.Phoneme
import SoundLaw.Vowel

namespace SoundLaw

/-- The legal diphthongs. -/
def diphthongs : List Text := [
  ['a', 'e'], ['a', 'i'], ['a', 'u'], ['a', 'w'], ['e', 'i'], ['o', 'e'], ['u', 'i']]

/-- Whether a text is a legal diphthong, case aside. -/
def isDiphthong (pair : Text) : Bool := diphthongs.contains pair.lower

/-- A nucleus: the phonemes from `start` to before `stop`. -/
structure Nucleus where
  start : Nat
  stop : Nat
  deriving DecidableEq, Repr

/-- The nuclei among phonemes, the first of which is at a place of the word. -/
def VowelSystem.nucleiFrom (v : VowelSystem) (place : Nat) : List Phoneme → List Nucleus
  | [] => []
  | [p] => if v.isVowel p.key then [⟨place, place + 1⟩] else []
  | p :: q :: ps =>
    if isDiphthong (p.text ++ q.text) then ⟨place, place + 2⟩ :: v.nucleiFrom (place + 2) ps
    else if v.isVowel p.key then ⟨place, place + 1⟩ :: v.nucleiFrom (place + 1) (q :: ps)
    else v.nucleiFrom (place + 1) (q :: ps)

/-- The nuclei of a word, left to right. -/
def VowelSystem.nuclei (v : VowelSystem) (ps : List Phoneme) : List Nucleus := v.nucleiFrom 0 ps

end SoundLaw
