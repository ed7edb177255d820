/-
  SoundLaw.Proofs.Match.Fitting

  What is known of a phoneme that a slot matches. Its key has one letter at most: a key of several
  letters is one of Hangul, and no literal has such a key (`isLetterKey_of_fits`). So the key is a
  literal that stands for itself (`literalKey_of_isLetterKey`), and can be written back for it.
-/
import SoundLaw.Proofs.Phoneme.Keys
import SoundLaw.Proofs.Variant.ReadBack

namespace SoundLaw

/-! ## Keys as literals -/

theorem literalKey_of_isLetterKey {key : Text} (h : key.IsLetterKey) :
    key.literalKey = key ∧ key.literalMarks = [] ∧ key.base = key := by
  rcases h with rfl | ⟨k, rfl, letter, final, small⟩
  · decide +kernel
  · obtain ⟨base, marks⟩ := base_and_marks_singleton final letter
    rw [Text.literalKey, Text.literalMarks, fold_rules_singleton, base, marks]
    exact ⟨small, rfl, rfl⟩

/-! ## Literals of matched phonemes -/

section

variable {word : Text} {p : Phoneme} (hp : p ∈ phonemes DigraphTable.rules word)

include hp

/-- A phoneme fits a literal only if the literal keeps its digraph. -/
theorem key_eq_lower_of_fits {b : Char} {marks : Text} (final : decompose b = [b])
    (letter : isMark b = false) (marked : ∀ m ∈ marks, isMark m = true)
    (fits : p.Fits (Text.literal (b :: marks))) :
    p.key = Text.lower [b] ∧
      (Text.literal (b :: marks)).literalMarks = Text.marks (b :: marks) := by
  by_cases keeps : KeepsDigraph b marks
  · obtain ⟨key, own⟩ := literal_of_keepsDigraph final letter marked keeps
    exact ⟨fits.1.symm.trans key, own⟩
  · -- The literal has a key of two letters.
    obtain ⟨two, c, hc, other⟩ := literalKey_of_not_keepsDigraph final letter marked keeps
    rw [fits.1] at two hc
    rcases isPhonemeKey_of_mem_phonemes hp with (empty | ⟨k, single, _⟩) | ⟨_, hangul⟩
    · rw [empty] at two
      exact absurd two (by simp)
    · rw [single] at two
      exact absurd two (by simp)
    · exact absurd (hangul c hc) other

/-- A phoneme that fits a literal has the empty key, or the lower case of the letter that the literal
    is made of. -/
theorem exists_unit_of_fits {symbol : Symbol} (prepared : symbol.IsPrepared) {literal : Text}
    (member : literal ∈ symbol.literals) (fits : p.Fits literal) :
    p.key = [] ∨ ∃ c marks, literal = Text.literal (c :: marks) ∧ decompose c = [c] ∧
      isMark c = false ∧ (∀ m ∈ marks, isMark m = true) ∧ p.key = Text.lower [c] := by
  obtain ⟨c, marks, rfl, final, marked, _⟩ := prepared.exists_unit member
  cases mark : isMark c with
  | true =>
    left
    rw [← fits.1, (literal_of_marks (List.forall_mem_cons.2 ⟨mark, marked⟩)).2]
  | false =>
    exact Or.inr ⟨c, marks, rfl, final, mark, marked,
      (key_eq_lower_of_fits hp final mark marked fits).1⟩

/-- No literal of a slot matches the long `ſ`. -/
theorem key_ne_longS_of_fits {symbol : Symbol} (prepared : symbol.IsPrepared) {literal : Text}
    (member : literal ∈ symbol.literals) (fits : p.Fits literal) : p.key ≠ ['ſ'] := by
  intro long
  rcases exists_unit_of_fits hp prepared member fits with
    empty | ⟨c, marks, rfl, final, letter, marked, key⟩
  · rw [empty] at long
    exact absurd long (by simp)
  · have longS : isLongS c = true := by
      by_contra short
      have lower := Text.IsShort.lower (t := [c])
        (List.forall_mem_singleton.2 (Bool.not_eq_true _ ▸ short))
      rw [← key, long] at lower
      exact absurd (lower 'ſ' List.mem_cons_self) (by decide)
    rcases isLongS_iff.1 longS with rfl | rfl
    · -- The digraph `ss` is none of rule notation, so that the literal has a key of two letters.
      have loses : ¬KeepsDigraph 'ſ' marks := fun keeps => absurd (keeps (by decide)).1 (by decide)
      have two := (literalKey_of_not_keepsDigraph final letter marked loses).1
      rw [fits.1, long] at two
      exact absurd two (by simp)
    · exact absurd final (by decide +kernel)

/-- The key of a phoneme that a slot matches has one letter at most. -/
theorem isLetterKey_of_fits {symbol : Symbol} (prepared : symbol.IsPrepared) {literal : Text}
    (member : literal ∈ symbol.literals) (fits : p.Fits literal) : p.key.IsLetterKey := by
  rcases exists_unit_of_fits hp prepared member fits with
    empty | ⟨c, _, _, final, letter, _, key⟩
  · exact Or.inl empty
  · rw [key]
    exact Or.inr (exists_lower_eq_keyLetter letter final)

end

-- The key of a Hangul syllable has a letter for each of its three sounds.
example : (phonemes DigraphTable.rules ['한']).map (fun p => p.key.length) = [3] := by
  decide +kernel

end SoundLaw
