/-
  SoundLaw.Proofs.Match.LetterCase

  Matching and letter case. A step looks at the key and at the marks of a phoneme only, so phonemes
  that differ in their spelling alone are bound alike (`simulation_sameButSpelling`). Hence a rule
  that matches a word matches it in whatever case its letters are written, at the same place and by
  the same alternatives (`matching_ignores_case`).
-/
import SoundLaw.Proofs.Match.Simulation
import SoundLaw.Proofs.Phoneme.LetterCase

namespace SoundLaw

/-- What a step chooses depends on the key and on the marks of a phoneme. -/
theorem choose?_congr (s : Step) {p q : Phoneme} (key : p.key = q.key) (marks : p.marks = q.marks) :
    s.choose? p = s.choose? q := by
  have matched : p.isMatchedBy = q.isMatchedBy := by
    funext literal
    rw [Phoneme.isMatchedBy, Phoneme.isMatchedBy, Phoneme.hasMarks, Phoneme.hasMarks, key, marks]
  rw [Step.choose?, Step.choose?, Step.candidates, Step.candidates, matched]

/-- The same step, bound by the same alternative to phonemes that differ in their spelling alone. -/
structure Binding.SameButSpelling (b c : Binding) : Prop where
  step : b.step = c.step
  choice : b.choice = c.choice
  phoneme : Option.Rel Phoneme.SameButSpelling b.phoneme c.phoneme

theorem simulation_sameButSpelling :
    Simulation (· = ·) Phoneme.SameButSpelling Binding.SameButSpelling where
  consumes := congrArg Step.consumes
  coindex := congrArg Step.oldCoindex
  key := Phoneme.SameButSpelling.key
  marked := by
    rintro s _ p q rfl same
    rw [Phoneme.hasMarks, Phoneme.hasMarks, same.marks]
  chosen := by
    rintro s _ p q rfl same
    rw [choose?_congr s same.key same.marks]
    exact rel_mono (rel_self _) fun i j equal => ⟨rfl, equal, .some same⟩
  passed := by
    rintro s _ rfl _
    exact ⟨rfl, rfl, .none⟩
  filled same := rel_isSome same.phoneme

/-- Letter case makes no difference to matching. Two words of basic letters and marks that differ
    in the case of their letters have phonemes with the same offsets, keys and marks; and every
    variant matches both at the same place, by the same alternatives and with the same captures, or
    neither of them. -/
theorem matching_ignores_case {s t : Text} (basic : s.IsBasic) (basic' : t.IsBasic)
    (same : s.map Char.toLower = t.map Char.toLower) :
    ∃ ps qs, phonemes? DigraphTable.rules s = .ok ps ∧ phonemes? DigraphTable.rules t = .ok qs ∧
      List.Forall₂ Phoneme.SameButSpelling ps qs ∧
      ∀ v : Variant, Option.Rel (Match.Alike Binding.SameButSpelling) (v.findMatch? ps)
        (v.findMatch? qs) := by
  have word := phonemes_sameButSpelling DigraphTable.rules basic basic' same
  refine ⟨_, _, phonemes?_eq_ok DigraphTable.isPlain_rules s,
    phonemes?_eq_ok DigraphTable.isPlain_rules t, word, fun v => ?_⟩
  exact simulation_sameButSpelling.findMatch? (List.forall₂_refl v.steps) rfl word

/-- A spirant between a vowel with an acute and any other one. -/
def spirantBetween : Variant where
  steps := [{ find := [['a'], ['e']], replace := [['a'], ['e']], oldMark := ['\u0301'] },
    { find := [['t', 'h'], ['d', 'h']], replace := [['t'], ['d']] },
    { find := [['a'], ['e']], replace := [['a'], ['e']], oldCoindex := some 1 }]

-- The capitals are elsewhere, in the digraph too.
theorem matching_ignores_case_of_scattered_capitals :
    ∃ m n,
      spirantBetween.findMatch? (phonemes DigraphTable.rules ['N', 'a', '\u0301', 'D', 'h', 'e']) =
        some m ∧
      spirantBetween.findMatch? (phonemes DigraphTable.rules ['n', 'A', '\u0301', 'd', 'H', 'E']) =
        some n ∧
      m.start = 1 ∧ Match.Alike Binding.SameButSpelling m n := by
  obtain ⟨ps, qs, read, read', _, alike⟩ := matching_ignores_case
    (s := ['N', 'a', '\u0301', 'D', 'h', 'e']) (t := ['n', 'A', '\u0301', 'd', 'H', 'E'])
    (by decide +kernel) (by decide +kernel) (by decide)
  rw [phonemes?_eq_ok DigraphTable.isPlain_rules, Except.ok.injEq] at read read'
  subst read read'
  have found : (spirantBetween.findMatch? (phonemes DigraphTable.rules
      ['N', 'a', '\u0301', 'D', 'h', 'e'])).map Match.start = some 1 := by
    decide +kernel
  obtain ⟨m, found, start⟩ := Option.map_eq_some_iff.1 found
  have alike := alike spirantBetween
  rw [found] at alike
  obtain ⟨n, found', alike⟩ := exists_of_rel_some alike
  exact ⟨m, n, found, found', start, alike⟩

end SoundLaw
