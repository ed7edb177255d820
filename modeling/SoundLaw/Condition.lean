/-
  SoundLaw.Condition

  Conditions on the prosody of a word. A rule with a condition applies only to words whose
  syllables satisfy it.
-/
import SoundLaw.Syllable

namespace SoundLaw

/-- A named condition on the syllables of a word. -/
structure Condition where
  name : Text
  holds : List Syllable → Bool

namespace Condition

/-- The word has more than one syllable. -/
def polysyllabic : Condition := ⟨"polysyllabic".toList, fun s => 1 < s.length⟩

/-- The first syllable is not heavy. -/
def lightFirstSyllable : Condition :=
  ⟨"light_first_syllable".toList, fun s => s.head?.all (·.weight != .heavy)⟩

/-- The last syllable is closed. -/
def finalClosed : Condition := ⟨"final_closed".toList, fun s => s.getLast?.any (·.isClosed)⟩

/-- The last syllable but one is heavy. -/
def penultHeavy : Condition :=
  ⟨"penult_heavy".toList, fun s => s.reverse[1]?.any (·.weight == .heavy)⟩

/-- The first syllable is stressed. -/
def firstStressed : Condition := ⟨"first_stressed".toList, fun s => s.head?.any (·.isStressed)⟩

/-- The number of syllables is not one. -/
def extraSyllables : Condition := ⟨"extra_syllables".toList, fun s => s.length != 1⟩

/-- The last syllable has a coda. -/
def lastCoda : Condition := ⟨"last_coda".toList, fun s => s.getLast?.any (!·.coda.isEmpty)⟩

/-- The conditions that a rule can name. -/
def all : List Condition := [
  polysyllabic, lightFirstSyllable, finalClosed, penultHeavy, firstStressed, extraSyllables,
  lastCoda]

/-- The condition of a name. -/
def ofName? (name : Text) : Option Condition := all.find? (·.name == name)

end Condition

end SoundLaw
