/-
  SoundLaw.Proofs.Syllable.VowelLetters

  The vowels of a text are told from its base letters. A phoneme that has a vowel letter is that letter
  with marks, and its key is a vowel (`isVowel_key_of_mem_base`): digraphs are made of consonants, and
  so are their stand-ins. So it makes no difference to the vowels whether a text is read with digraphs
  or letter by letter.
-/
import SoundLaw.Proofs.Phoneme.Keys
import SoundLaw.Proofs.Spelling.Unfolded
import SoundLaw.Proofs.Syllable.CanonicalForms

namespace SoundLaw

variable {v : VowelSystem}

/-! ## Letters -/

/-- Whether a base letter is a vowel, case aside. -/
def VowelSystem.isLetter (v : VowelSystem) (b : Char) : Bool := v.letters.contains (lowerLetter b)

theorem isVowel_eq (v : VowelSystem) (t : Text) : v.isVowel t = t.nfd.head?.any v.isLetter := by
  rw [VowelSystem.isVowel]
  cases t.nfd <;> rfl

/-- Base letters are decomposed. -/
theorem nfd_base (t : Text) : t.base.nfd = t.base := by
  have final : t.base.flatMap decompose = t.base :=
    flatMap_decompose_eq_self fun b hb => decompose_eq_self_of_mem_nfd (List.mem_filter.1 hb).1
  have letters : ∀ d ∈ t.base.flatMap decompose, isMark d = false :=
    fun d hd => Text.not_isMark_of_mem_base (final ▸ hd)
  have whole := nfd_letters_append (t := []) letters
  rwa [List.append_nil, Text.nfd_nil, List.append_nil, final] at whole

theorem isVowel_withoutMarks (v : VowelSystem) (t : Text) :
    v.isVowel t.withoutMarks = t.base.head?.any v.isLetter := by
  rw [isVowel_eq, Text.withoutMarks, Text.nfd_nfc, nfd_base]

theorem lower_singleton {b : Char} (final : decompose b = [b]) : Text.lower [b] = [lowerLetter b] := by
  show lowerBetween [] b [] ++ [] = _
  rw [List.append_nil, lowerBetween]
  split
  · next sigma =>
    rw [sigma]
    decide +kernel
  · split
    · next dotted =>
      rw [dotted] at final
      exact absurd final (by decide +kernel)
    · rfl

/-- The key of a letter is a vowel exactly if the letter is. -/
theorem isVowel_lower_base {t : Text} (shape : IsLetterBase t.base) :
    v.isVowel t.base.lower = t.base.head?.any v.isLetter := by
  have final : ∀ b ∈ t.base, decompose b = [b] :=
    fun b hb => decompose_eq_self_of_mem_nfd (List.mem_filter.1 hb).1
  rcases shape with none | ⟨b, single⟩ | ⟨_, page⟩
  · rw [none]
    rfl
  · have letter : isMark b = false := Text.not_isMark_of_mem_base (t := t) (by simp [single])
    have here := final b (by simp [single])
    have small : Text.nfd [lowerLetter b] = [lowerLetter b] :=
      nfd_cons_of_final (decompose_lowerLetter here) (isMark_lowerLetter letter) []
    rw [single, lower_singleton here, isVowel_eq, small, List.head?_cons, Option.any_some,
      List.head?_cons, Option.any_some, VowelSystem.isLetter, VowelSystem.isLetter,
      lowerLetter_lowerLetter]
  · rw [lower_of_hangulPage page, isVowel_eq, nfd_base]

/-! ## Digraphs -/

theorem consonants_rules : passesForLetters (fun _ n => isListable n &&
    (decomposedCodes n).all fun m => !VowelSystem.lettered.isLetter (Char.ofNat m)) = true := by
  decide +kernel

/-- The letters of digraphs are consonants. -/
theorem not_isLetter_of_isDigraphLetter {c b : Char} (h : isDigraphLetter c = true)
    (part : b ∈ decompose c) : VowelSystem.lettered.isLetter b = false := by
  obtain ⟨d, hd, inside⟩ := List.any_eq_true.1 h
  obtain ⟨k, hk, same⟩ := List.any_eq_true.1 inside
  have checked := check_of_sameLetter consonants_rules hd hk same
  rw [Bool.and_eq_true] at checked
  obtain ⟨listable, consonants⟩ := checked
  have whole := decompose_ofNat listable
  rw [Char.ofNat_toNat] at whole
  rw [whole] at part
  obtain ⟨m, hm, rfl⟩ := List.mem_map.1 part
  simpa using List.all_eq_true.1 consonants m hm

theorem DigraphTable.SharesLetters.isDigraphLetter_of_reach {table : DigraphTable}
    (shares : table.SharesLetters) {t : Text} {n : Nat} (reached : table.reach t = some n) :
    ∀ c ∈ t.take n, isDigraphLetter c = true := by
  obtain ⟨⟨d, hd, opening, rfl⟩, _⟩ := DigraphTable.reach_eq_some_iff.1 reached
  intro c hc
  obtain ⟨k, hk, same⟩ := DigraphTable.exists_sameLetter_of_opens opening c hc
  obtain ⟨e, he, member⟩ := shares d (DigraphTable.mem_of_mem_readable hd).1 k hk
  exact List.any_eq_true.2 ⟨e, he, List.any_eq_true.2 ⟨k, member, same⟩⟩

/-- No stand-in of a digraph is a vowel, in any system. -/
theorem not_isVowel_standIn {compound : Bool} {spelling standIn : Text}
    (listed : (DigraphTable.forSyllables compound).standIn? spelling = some standIn)
    (v : VowelSystem) : v.isVowel standIn = false := by
  have each : ([⟨false, false⟩, ⟨false, true⟩, ⟨true, false⟩, ⟨true, true⟩] : List VowelSystem).all
      (fun v => [false, true].all fun compound => (DigraphTable.forSyllables compound).all
        fun d => !v.isVowel d.2) = true := by decide +kernel
  obtain ⟨before, after, split, _⟩ := List.lookup_eq_some_iff.1 listed
  have system : v ∈ ([⟨false, false⟩, ⟨false, true⟩, ⟨true, false⟩, ⟨true, true⟩] :
      List VowelSystem) := by
    obtain ⟨_ | _, _ | _⟩ := v <;> decide
  have flag : compound ∈ [false, true] := by cases compound <;> decide
  have checked := List.all_eq_true.1 (List.all_eq_true.1 each v system) compound flag
  simpa using List.all_eq_true.1 checked (spelling.lower, standIn) (by simp [split])

/-! ## Phonemes -/

/-- A phoneme that is read by itself is a letter with marks, and the letter is its key. -/
theorem letter_of_firstGrapheme {compound : Bool} {c : Char} {t : Text}
    (unread : (DigraphTable.forSyllables compound).reach (c :: t) = none) :
    IsLetterBase (firstGrapheme (DigraphTable.forSyllables compound) c t).text.base ∧
      (firstGrapheme (DigraphTable.forSyllables compound) c t).key
          (DigraphTable.forSyllables compound) =
        (firstGrapheme (DigraphTable.forSyllables compound) c t).text.base.lower ∧
      ∃ marks, (firstGrapheme (DigraphTable.forSyllables compound) c t).text = c :: marks ∧
        ∀ m ∈ marks, isMark m = true := by
  obtain ⟨letter, text⟩ := firstGrapheme_of_reach_eq_none unread
  obtain ⟨letters, marks, whole, lettered, marked, shape⟩ :=
    exists_nfd_text_firstGrapheme (sharesLetters_forSyllables compound) c t
  have base := (base_and_marks_of_nfd_eq_append whole lettered marked).1
  exact ⟨base ▸ shape letter, Grapheme.key_of_letter (filled_forSyllables compound) letter, _, text,
    isMark_of_mem_trail (DigraphTable.forSyllables compound) c t⟩

/-- A phoneme that is read as a digraph is made of consonants, with a consonant for its key. -/
theorem consonants_of_firstGrapheme {compound : Bool} {c : Char} {t : Text} {n : Nat}
    (reached : (DigraphTable.forSyllables compound).reach (c :: t) = some n) :
    (∀ b ∈ (firstGrapheme (DigraphTable.forSyllables compound) c t).text.base,
        VowelSystem.lettered.isLetter b = false) ∧
      ∀ v : VowelSystem, v.isVowel ((firstGrapheme (DigraphTable.forSyllables compound) c t).key
        (DigraphTable.forSyllables compound)) = false := by
  obtain ⟨digraph, head⟩ := firstGrapheme_of_reach reached
  constructor
  · intro b hb
    obtain ⟨decomposed, letter⟩ := List.mem_filter.1 hb
    obtain ⟨e, he, part⟩ := mem_nfd.1 decomposed
    rcases List.mem_append.1 he with spelled | mark
    · have letters := (sharesLetters_forSyllables compound).isDigraphLetter_of_reach reached
      exact not_isLetter_of_isDigraphLetter (letters e (head ▸ spelled)) part
    · have trailing := isMark_of_mem_trail (DigraphTable.forSyllables compound) c t
      rw [isMark_of_mem_decompose (trailing e mark) part] at letter
      exact absurd letter (by simp)
  · obtain ⟨standIn, found⟩ :=
      DigraphTable.exists_standIn?_of_reach (isPlain_forSyllables compound) reached
    intro v
    rw [Grapheme.key, if_pos digraph, Grapheme.phoneme, if_pos digraph, head, found,
      Option.getD_some]
    exact not_isVowel_standIn found v

/-- How a phoneme can be made: of a letter, which is its key, and marks; or of consonants, with a
    consonant for its key. -/
theorem text_cases_of_mem_phonemes {compound : Bool} {word : Text} {p : Phoneme}
    (hp : p ∈ phonemes (DigraphTable.forSyllables compound) word) :
    (IsLetterBase p.text.base ∧ p.key = p.text.base.lower ∧ p.marks = p.text.marks ∧
      ∃ c marks, p.text = c :: marks ∧ ∀ m ∈ marks, isMark m = true) ∨
    (∀ b ∈ p.text.base, VowelSystem.lettered.isLetter b = false) ∧
      ∀ v : VowelSystem, v.isVowel p.key = false := by
  obtain ⟨before, c, t, _, member, rfl⟩ :=
    exists_firstGrapheme_of_mem (DigraphTable.forSyllables compound) [] word p hp
  cases reached : (DigraphTable.forSyllables compound).reach (c :: t) with
  | none =>
    obtain ⟨shape, key, parts⟩ := letter_of_firstGrapheme reached
    exact .inl ⟨shape, key, rfl, c, parts⟩
  | some n => exact .inr (consonants_of_firstGrapheme reached)

/-- No letter of a Hangul syllable is a vowel. -/
theorem not_isLetter_of_hangulPage {b : Char} (page : b.toNat / 256 = 0x11) :
    v.isLetter b = false := by
  have low : (v.letters.all fun k => Nat.blt k.toNat 0x1100) = true := by
    obtain ⟨_ | _, _ | _⟩ := v <;> decide
  rw [VowelSystem.isLetter, lowerLetter_of_hangulPage page, ← Bool.not_eq_true,
    List.contains_iff_mem]
  intro member
  have small := List.all_eq_true.1 low b member
  rw [Nat.blt_eq] at small
  omega

theorem IsLetterBase.eq_singleton {base : Text} (shape : IsLetterBase base) {b : Char}
    (hb : b ∈ base) (vowel : v.isLetter b = true) : base = [b] := by
  rcases shape with rfl | ⟨c, rfl⟩ | ⟨_, page⟩
  · exact absurd hb List.not_mem_nil
  · rw [List.mem_singleton.1 hb]
  · rw [not_isLetter_of_hangulPage (page b hb)] at vowel
    exact absurd vowel (by simp)

section Phonemes

variable {compound : Bool} {word : Text} {p : Phoneme}
  (hp : p ∈ phonemes (DigraphTable.forSyllables compound) word)

include hp

/-- A phoneme that is a vowel is a vowel letter with marks. -/
theorem exists_base_of_isVowel_key (vowel : v.isVowel p.key = true) :
    ∃ b, p.text.base = [b] ∧ v.isLetter b = true := by
  rcases text_cases_of_mem_phonemes hp with ⟨shape, key, _⟩ | ⟨_, consonant⟩
  · rw [key, isVowel_lower_base shape] at vowel
    cases first : p.text.base.head? with
    | none => simp [first] at vowel
    | some b =>
      rw [first, Option.any_some] at vowel
      exact ⟨b, shape.eq_singleton (List.mem_of_mem_head? first) vowel, vowel⟩
  · rw [consonant v] at vowel
    exact absurd vowel (by simp)

/-- A phoneme with a vowel letter in it is that vowel. -/
theorem isVowel_key_of_mem_base {b : Char} (hb : b ∈ p.text.base)
    (vowel : VowelSystem.lettered.isLetter b = true) :
    p.text.base = [b] ∧ v.isVowel p.key = v.isLetter b := by
  rcases text_cases_of_mem_phonemes hp with ⟨shape, key, _⟩ | ⟨consonants, _⟩
  · have single := shape.eq_singleton hb vowel
    refine ⟨single, ?_⟩
    rw [key, isVowel_lower_base shape, single, List.head?_cons, Option.any_some]
  · rw [consonants b hb] at vowel
    exact absurd vowel (by simp)

end Phonemes

end SoundLaw
