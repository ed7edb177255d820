/-
  SoundLaw.Proofs.Syllable.Prosody

  What the prosody of a syllable owes to the form in which it is written. Diphthongs are spelled with
  plain letters, which have one form only. A long vowel is told by its letter and its marks, which are
  those of the decomposed form. Only the end of a syllable is looked at as it is written: its last
  character is a consonant with a diacritic in the composed form, and a mark in the decomposed one
  (`Text.AreForms.endsInConsonant`).
-/
import SoundLaw.Proofs.Phoneme.CanonicalForms
import SoundLaw.Proofs.Text.Blank
import SoundLaw.Proofs.Text.LetterCase
import SoundLaw.Syllable

namespace SoundLaw

/-! ## Plain letters -/

/-- A text of characters below `0x80` is its own form. -/
theorem forms_of_low {t : Text} (low : ∀ c ∈ t, c.toNat < 0x80) : t.nfd = t ∧ t.nfc = t := by
  induction t with
  | nil => exact ⟨rfl, rfl⟩
  | cons c t ih =>
    obtain ⟨here, later⟩ := List.forall_mem_cons.1 low
    obtain ⟨decomposed, composed⟩ := ih later
    have single : Text.nfd [c] = [c] := by
      rw [Text.nfd, List.flatMap_singleton, decompose_of_low here]
      rfl
    have letter : ∀ d ∈ t.head?, isMark d = false := by
      intro d hd
      have first := later d (List.mem_of_mem_head? hd)
      exact isMark_eq_false_of_lt (by omega)
    have apart : ∀ e ∈ (Text.nfc [c]).getLast?, ∀ d ∈ t.head?, hangulSyllable? e d = none := by
      intro e _ d hd
      have first := later d (List.mem_of_mem_head? hd)
      exact hangulSyllable?_eq_none (Or.inr (by omega)) e
    rw [← List.singleton_append, Text.nfd_append letter, Text.nfc_append letter apart, single,
      decomposed, composed, Text.nfc, single]
    exact ⟨rfl, rfl⟩

/-- Every character of a text leaves something in its lower case. -/
theorem exists_lowerBetween_subset (before : Text) {c : Char} {t : Text} (h : c ∈ t) :
    ∃ before' after, ∀ d ∈ lowerBetween before' c after, d ∈ lowerFrom before t := by
  induction t generalizing before with
  | nil => exact absurd h (by simp)
  | cons e t ih =>
    rcases List.mem_cons.1 h with rfl | later
    · exact ⟨before, t, fun d hd => List.mem_append_left _ hd⟩
    · obtain ⟨before', after, inside⟩ := ih (e :: before) later
      exact ⟨before', after, fun d hd => List.mem_append_right _ (inside d hd)⟩

/-- But for the `İ`, only plain letters have a letter of a diphthong as their lower case. -/
theorem low_of_lowerLetter {c k : Char} (hk : k ∈ ['a', 'e', 'i', 'o', 'u', 'w'])
    (small : lowerLetter c = k) (undotted : c ≠ 'İ') : c.toNat < 0x80 := by
  have each : (['a', 'e', 'i', 'o', 'u', 'w'].all fun k =>
      Nat.blt 0 k.toNat && Nat.blt k.toNat 0x80 &&
        lowerRuns.all fun r => Nat.blt k.toNat r.image ||
          Nat.blt r.last (r.first + (k.toNat - r.image)) ||
            Nat.blt (r.first + (k.toNat - r.image)) 0x80 ||
              Nat.beq (r.first + (k.toNat - r.image)) 0x130) = true := by decide +kernel
  have checked := List.all_eq_true.1 each k hk
  rw [Bool.and_eq_true, Bool.and_eq_true, Nat.blt_eq, Nat.blt_eq] at checked
  obtain ⟨⟨nonzero, low⟩, runs⟩ := checked
  rcases eq_or_exists_run_of_lowerLetter small (by omega) with rfl | ⟨r, member, image, code, last⟩
  · exact low
  · have run := List.all_eq_true.1 runs r member
    have other : c.toNat ≠ 0x130 := fun same => undotted (Char.toNat_inj.1 same)
    rw [← code, Bool.or_eq_true, Bool.or_eq_true, Bool.or_eq_true, Nat.blt_eq, Nat.blt_eq,
      Nat.blt_eq, Nat.beq_eq] at run
    omega

/-- A diphthong is spelled with plain letters. -/
theorem low_of_isDiphthong {t : Text} (h : isDiphthong t = true) : ∀ c ∈ t, c.toNat < 0x80 := by
  have each : (diphthongs.all fun spelling => spelling.all
      ['a', 'e', 'i', 'o', 'u', 'w'].contains) = true := by decide
  rw [isDiphthong, List.contains_iff_mem] at h
  intro c hc
  obtain ⟨before, after, inside⟩ := exists_lowerBetween_subset [] hc
  have small : ∀ d ∈ lowerBetween before c after, d ∈ ['a', 'e', 'i', 'o', 'u', 'w'] :=
    fun d hd => List.contains_iff_mem.1
      (List.all_eq_true.1 (List.all_eq_true.1 each _ h) d (inside d hd))
  rw [lowerBetween] at small
  -- Neither a sigma nor the mark of an `İ` is in a diphthong.
  split at small
  · split at small <;> exact absurd (small _ List.mem_cons_self) (by decide)
  · split at small
    · exact absurd (small '\u0307' (by simp)) (by decide)
    · next undotted => exact low_of_lowerLetter (small _ List.mem_cons_self) rfl undotted

/-- The two forms of two phonemes spell a diphthong both or neither. -/
theorem isDiphthong_append_eq {s s' t t' : Text} (first : s.AreForms t) (second : s'.AreForms t') :
    isDiphthong (s ++ s') = isDiphthong (t ++ t') := by
  rw [Bool.eq_iff_iff]
  constructor
  · intro h
    have low := low_of_isDiphthong h
    have same := (forms_of_low fun c hc => low c (List.mem_append_left s' hc)).1
    have same' := (forms_of_low fun c hc => low c (List.mem_append_right s hc)).1
    rwa [first.decomposed, second.decomposed, same, same']
  · intro h
    have low := low_of_isDiphthong h
    have same := (forms_of_low fun c hc => low c (List.mem_append_left t' hc)).2
    have same' := (forms_of_low fun c hc => low c (List.mem_append_right t hc)).2
    rwa [first.composed, second.composed, same, same']

/-! ## Vowels -/

theorem filled_letters : ∀ d ∈ DigraphTable.letters, d.1 ≠ [] := by
  simp [DigraphTable.letters]

theorem sharesLetters_letters : DigraphTable.letters.SharesLetters := by
  simp [DigraphTable.SharesLetters, DigraphTable.letters]

/-- Letter by letter, no digraph is read. -/
theorem keepsDigraphs_letters (t : Text) : t.KeepsDigraphs DigraphTable.letters := by
  have none : ∀ t : Text, ∀ g ∈ graphemes DigraphTable.letters isMark t, g.isDigraph = false := by
    intro t
    induction t using graphemes_induction DigraphTable.letters with
    | nil => simp
    | cons c t ih =>
      rw [graphemes_cons]
      exact List.forall_mem_cons.2 ⟨rfl, ih⟩
  intro g hg digraph
  rw [none _ g hg] at digraph
  exact absurd digraph (by simp)

/-- A long vowel is one in both forms. -/
theorem Text.AreForms.hasLongVowel {s t : Text} (forms : s.AreForms t)
    (single : ∀ c ∈ s, hangulLetters? c = none) : s.hasLongVowel = t.hasLongVowel := by
  have composed : s.nfc = s := by
    rw [forms.composed, Text.nfc_nfc]
  have alike := alike_phonemes filled_letters sharesLetters_letters (composed.symm ▸ single)
    (keepsDigraphs_letters s)
  rw [composed, ← forms.decomposed] at alike
  rw [Text.hasLongVowel, Text.hasLongVowel]
  generalize phonemes DigraphTable.letters s = ps at alike ⊢
  generalize phonemes DigraphTable.letters t = qs at alike ⊢
  induction alike with
  | nil => rfl
  | cons here _ ih => rw [List.any_cons, List.any_cons, ih, here.key, here.marks]

theorem Text.AreForms.hasDiphthong {s t : Text} (forms : s.AreForms t) :
    s.hasDiphthong = t.hasDiphthong := by
  have base : s.base = t.base := by
    rw [forms.decomposed, Text.base, Text.base, Text.nfd_nfd]
  rw [Text.hasDiphthong, Text.hasDiphthong, Text.withoutMarks, Text.withoutMarks, base]

/-! ## White space -/

/-- A text without white space has none in its composed form. -/
theorem not_isBlank_of_mem_nfc {t : Text} (filled : ∀ c ∈ t, isBlank c = false) :
    ∀ c ∈ t.nfc, isBlank c = false := by
  intro c hc
  rw [← Bool.not_eq_true]
  intro blank
  obtain ⟨_, _, single, _⟩ := not_isMark_and_exists_decompose_of_isBlank blank
  have final := decompose_eq_self_of_mem_nfc hc (by simp [single])
  -- The character stands in the decomposed form too, and comes from one that is white space.
  have decomposed : c ∈ t.nfd := by
    rw [← Text.nfd_nfc]
    exact mem_nfd.2 ⟨c, hc, by simp [final]⟩
  obtain ⟨d, member, part⟩ := mem_nfd.1 decomposed
  have white := isBlank_of_mem_decompose part blank
  rw [filled d member] at white
  exact absurd white (by simp)

/-! ## The end of a syllable -/

/-- A text ends in a consonant with a diacritic in one character. -/
def Text.EndsInComposedConsonant (t : Text) : Prop :=
  ∃ c ∈ t.getLast?, decompose c ≠ [c] ∧ isConsonant (Text.withoutMarks [c]) = true

instance (t : Text) : Decidable t.EndsInComposedConsonant :=
  decidable_of_iff
    ((t.getLast?.any fun c => decompose c != [c] && isConsonant (Text.withoutMarks [c])) = true)
    (by simp [Text.EndsInComposedConsonant, Option.any_eq_true])

theorem endsInConsonant_concat {c : Char} (filled : isBlank c = false) (front : Text) :
    Text.endsInConsonant (front ++ [c]) = isConsonant (Text.withoutMarks [c]) := by
  have stripped : Text.stripEnd (front ++ [c]) = front ++ [c] := by
    simp [Text.stripEnd, Text.dropEndWhile, filled]
  have last : Text.nth (front ++ [c]) (-1) = [c] := by
    have place : ((front ++ [c]).length : Int) + -1 = front.length := by
      rw [List.length_append, List.length_singleton]
      omega
    simp only [Text.nth, show (-1 : Int) < 0 by decide, if_true, place]
    simp
  rw [Text.endsInConsonant, stripped, last]

/-- Marks are no consonants. -/
theorem endsInConsonant_append_marks {marks : Text} (marked : ∀ m ∈ marks, isMark m = true)
    (some : marks ≠ []) (front : Text) : Text.endsInConsonant (front ++ marks) = false := by
  obtain ⟨before, m, rfl⟩ := (List.eq_nil_or_concat marks).resolve_left some
  rw [List.concat_eq_append] at marked ⊢
  have mark := marked m (by simp)
  have filled : isBlank m = false := isBlank_of_isMark mark
  have noBase : Text.base [m] = [] := base_of_marks_only (List.forall_mem_singleton.2 mark)
  rw [← List.append_assoc, endsInConsonant_concat filled, Text.withoutMarks, noBase]
  rfl

theorem endsInConsonant_letter_marks {marks : Text} (marked : ∀ m ∈ marks, isMark m = true)
    (some : marks ≠ []) (front : Text) (c : Char) :
    Text.endsInConsonant (front ++ c :: marks) = false := by
  rw [← List.singleton_append, ← List.append_assoc, endsInConsonant_append_marks marked some]

/-- A text consists of marks, or has a last letter. -/
theorem isMark_or_exists_last_letter (t : Text) :
    (∀ m ∈ t, isMark m = true) ∨
      ∃ front c marks, t = front ++ c :: marks ∧ isMark c = false ∧ ∀ m ∈ marks, isMark m = true := by
  induction t with
  | nil => exact Or.inl (by simp)
  | cons d t ih =>
    rcases ih with marked | ⟨front, c, marks, rfl, letter, marked⟩
    · cases mark : isMark d with
      | true => exact Or.inl (List.forall_mem_cons.2 ⟨mark, marked⟩)
      | false => exact Or.inr ⟨[], d, t, rfl, mark, marked⟩
    · exact Or.inr ⟨d :: front, c, marks, rfl, letter, marked⟩

/-- A letter with marks decomposes to a letter with marks, and to a bare one only if it is a single
    character without a decomposition. -/
theorem nfd_letter_marks_cases {c : Char} {marks : Text} (letter : isMark c = false)
    (single : hangulLetters? c = none) (marked : ∀ m ∈ marks, isMark m = true) :
    marks = [] ∧ (decompose c).length = 1 ∨
      ∃ b rest, Text.nfd (c :: marks) = b :: rest ∧ rest ≠ [] ∧ ∀ m ∈ rest, isMark m = true := by
  obtain ⟨b, rest, whole, _, restMarked⟩ := exists_nfd_eq_letter_marks letter single marked
  rcases List.eq_nil_or_concat rest with rfl | ⟨_, _, rfl⟩
  · have lengths := congrArg List.length whole
    rw [Text.length_nfd, Text.fullLength_cons, List.length_singleton] at lengths
    have one := length_decompose_pos c
    refine Or.inl ⟨?_, by omega⟩
    cases marks with
    | nil => rfl
    | cons m marks =>
      have two := length_decompose_pos m
      rw [Text.fullLength_cons] at lengths
      omega
  · exact Or.inr ⟨b, _, whole, by simp, restMarked⟩

/-- A text without Hangul syllables ends in a consonant in both forms or in neither, unless that
    consonant is composed. -/
theorem Text.AreForms.endsInConsonant {s t : Text} (forms : s.AreForms t)
    (single : ∀ c ∈ s, hangulLetters? c = none) (filled : ∀ c ∈ s, isBlank c = false)
    (plain : ¬s.EndsInComposedConsonant) : s.endsInConsonant = t.endsInConsonant := by
  rw [forms.decomposed]
  rcases isMark_or_exists_last_letter s with marked | ⟨front, c, marks, rfl, letter, marked⟩
  · -- Marks only, in both forms.
    by_cases none : s = []
    · rw [none, Text.nfd_nil]
    · have before := endsInConsonant_append_marks marked none []
      have after := endsInConsonant_append_marks (isMark_of_mem_nfd marked) (Text.nfd_ne_nil none) []
      rw [List.nil_append] at before after
      rw [before, after]
  · have begins : ∀ d ∈ (c :: marks).head?, isMark d = false :=
      fun d hd => Option.mem_some_iff.1 hd ▸ letter
    rw [Text.nfd_append begins]
    rcases nfd_letter_marks_cases letter (single c (by simp)) marked with
      ⟨rfl, one⟩ | ⟨b, rest, whole, some, restMarked⟩
    · -- A letter without a diacritic is the same in both forms.
      have final : decompose c = [c] :=
        decompose_eq_self_of_mem_nfc (t := t) (by simp [← forms.composed]) one
      have same : Text.nfd [c] = [c] := nfd_cons_of_final final letter []
      rw [same, endsInConsonant_concat (filled c (by simp)),
        endsInConsonant_concat (filled c (by simp))]
    · -- The decomposed form ends in a mark, and so does the composed one unless its last letter has
      -- all of them in it.
      rw [whole, endsInConsonant_letter_marks restMarked some]
      by_cases alone : marks = []
      · have composed : decompose c ≠ [c] := by
          intro final
          rw [alone, nfd_cons_of_final final letter []] at whole
          exact some (List.cons.inj whole).2.symm
        rw [alone, endsInConsonant_concat (filled c (by simp)), ← Bool.not_eq_true]
        exact fun consonant => plain ⟨c, by simp [alone], composed, consonant⟩
      · rw [endsInConsonant_letter_marks marked alone]

/-! ## Weight -/

/-- A text that nothing but a composed consonant at its end makes heavy. -/
def Text.IsHeavyByComposedConsonant (t : Text) : Prop :=
  t.EndsInComposedConsonant ∧ t.hasLongVowel = false ∧ t.hasDiphthong = false

instance (t : Text) : Decidable t.IsHeavyByComposedConsonant :=
  inferInstanceAs (Decidable (_ ∧ _))

/-- A text without Hangul syllables has one weight in both forms, unless only a composed consonant
    makes it heavy. -/
theorem Text.AreForms.weight {s t : Text} (forms : s.AreForms t)
    (single : ∀ c ∈ s, hangulLetters? c = none) (filled : ∀ c ∈ s, isBlank c = false)
    (plain : ¬s.IsHeavyByComposedConsonant) : s.weight = t.weight := by
  rw [Text.weight, Text.weight, ← forms.hasLongVowel single, ← forms.hasDiphthong]
  by_cases ends : s.EndsInComposedConsonant
  · have heavy : (s.hasLongVowel || s.hasDiphthong) = true := by
      rw [← Bool.not_eq_false, Bool.or_eq_false_iff]
      exact fun light => plain ⟨ends, light⟩
    rw [heavy, Bool.true_or, Bool.true_or]
  · rw [forms.endsInConsonant single filled ends]

end SoundLaw
