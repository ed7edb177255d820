/-
  SoundLaw.Proofs.Phoneme.Keys

  The text and the key of a phoneme. In the decomposed text the letters come before the marks, so the
  two make up the phoneme again (`nfd_text_of_mem_phonemes`). The key is a single letter, in lower case
  and without a diacritic (`IsKeyLetter`), with two exceptions: marks that start a word have an empty
  key, and the key of a Hangul syllable has several letters (`isPhonemeKey_of_mem_phonemes`).
-/
import SoundLaw.Proofs.Notation.Phonemes
import SoundLaw.Proofs.Text.LetterCase

namespace SoundLaw

/-! ## Letters before marks -/

theorem two_le_length_of_hangulLetters? {c : Char} {letters : Text}
    (h : hangulLetters? c = some letters) : 2 ≤ letters.length := by
  unfold hangulLetters? at h
  split at h
  · dsimp only at h
    split at h
    · exact Option.some.inj h ▸ Nat.le_refl 2
    · exact Option.some.inj h ▸ Nat.le_succ 2
  · exact absurd h (by simp)

/-- No letter of a Hangul syllable is a mark. -/
theorem not_isMark_of_hangulPage {c : Char} (page : c.toNat / 256 = 0x11) : isMark c = false := by
  apply not_isMark_of_isUnmarkedCode
  simp only [isUnmarkedCode, Bool.or_eq_true, Bool.and_eq_true, Nat.ble_eq, Nat.blt_eq]
  omega

/-- What the base letters of a grapheme without a digraph can be: none, a single one, or those of a
    Hangul syllable. -/
def IsLetterBase (base : Text) : Prop :=
  base = [] ∨ (∃ b, base = [b]) ∨ 2 ≤ base.length ∧ ∀ d ∈ base, d.toNat / 256 = 0x11

/-- The parts of a text that decomposes to letters in front of marks. -/
theorem base_and_marks_of_nfd_eq_append {t letters marks : Text} (whole : t.nfd = letters ++ marks)
    (lettered : ∀ d ∈ letters, isMark d = false) (marked : ∀ m ∈ marks, isMark m = true) :
    t.base = letters ∧ t.marks = marks := by
  have noMarks : letters.filter isMark = [] := by simpa [List.filter_eq_nil_iff] using lettered
  have noLetters : marks.filter (fun c => !isMark c) = [] := by
    simpa [List.filter_eq_nil_iff] using marked
  have own : letters.filter (fun c => !isMark c) = letters := by
    simpa [List.filter_eq_self] using lettered
  rw [Text.base, Text.marks, whole, List.filter_append, List.filter_append, noMarks, noLetters, own,
    List.filter_eq_self.2 marked]
  exact ⟨List.append_nil letters, rfl⟩

section FirstGrapheme

variable {table : DigraphTable} (shares : table.SharesLetters) (c : Char) (t : Text)

include shares

/-- In the decomposed form of a grapheme, letters come before marks. -/
theorem exists_nfd_text_firstGrapheme :
    ∃ letters marks, (firstGrapheme table c t).text.nfd = letters ++ marks ∧
      (∀ d ∈ letters, isMark d = false) ∧ (∀ m ∈ marks, isMark m = true) ∧
      ((firstGrapheme table c t).isDigraph = false → IsLetterBase letters) := by
  have trailing := isMark_of_mem_trail table c t
  cases reached : table.reach (c :: t) with
  | some n =>
    -- The letters of a digraph have no marks of their own.
    obtain ⟨digraph, head⟩ := firstGrapheme_of_reach reached
    have bare := shares.isBareLetter_of_reach reached
    refine ⟨_, _, nfd_bareLetters_append (head ▸ bare), fun d hd => ?_, isMark_of_mem_nfd trailing,
      by simp [digraph]⟩
    obtain ⟨e, he, hd⟩ := List.mem_flatMap.1 hd
    obtain ⟨b, whole, plain⟩ := (bare e (head ▸ he)).exists_decompose
    rw [whole] at hd
    rwa [List.mem_singleton.1 hd]
  | none =>
    rw [(firstGrapheme_of_reach_eq_none reached).2]
    cases mark : isMark c with
    | true =>
      -- Marks at the start of a word.
      exact ⟨[], _, rfl, by simp, isMark_of_mem_nfd (List.forall_mem_cons.2 ⟨mark, trailing⟩),
        fun _ => Or.inl rfl⟩
    | false =>
      cases hangul : hangulLetters? c with
      | none =>
        obtain ⟨b, rest, whole, plain, marked⟩ := exists_nfd_eq_letter_marks mark hangul trailing
        exact ⟨[b], rest, whole, by simpa using plain, marked, fun _ => Or.inr (Or.inl ⟨b, rfl⟩)⟩
      | some letters =>
        have whole : decompose c = letters := by simp [decompose, hangul]
        have page : ∀ d ∈ letters, d.toNat / 256 = 0x11 :=
          fun d hd => toNat_of_mem_hangulLetters? hangul hd
        have lettered : ∀ d ∈ letters, isMark d = false :=
          fun d hd => not_isMark_of_hangulPage (page d hd)
        refine ⟨letters, _, ?_, lettered, isMark_of_mem_nfd trailing, fun _ => Or.inr (Or.inr ?_)⟩
        · rw [← List.singleton_append, nfd_letters_append, List.flatMap_singleton, whole]
          rwa [List.flatMap_singleton, whole]
        · exact ⟨two_le_length_of_hangulLetters? hangul, page⟩

end FirstGrapheme

section Mem

variable {word : Text} {p : Phoneme} (hp : p ∈ phonemes DigraphTable.rules word)

include hp

/-- The letters of a phoneme, and then its marks. -/
theorem nfd_text_of_mem_phonemes : p.text.nfd = p.text.base ++ p.marks := by
  obtain ⟨before, c, t, _, _, rfl⟩ := exists_firstGrapheme_of_mem DigraphTable.rules [] word p hp
  obtain ⟨letters, marks, whole, lettered, marked, _⟩ :=
    exists_nfd_text_firstGrapheme DigraphTable.sharesLetters_rules c t
  obtain ⟨base, own⟩ := base_and_marks_of_nfd_eq_append whole lettered marked
  show (firstGrapheme DigraphTable.rules c t).text.nfd =
    (firstGrapheme DigraphTable.rules c t).text.base ++
      (firstGrapheme DigraphTable.rules c t).text.marks
  rw [whole, base, own]

theorem isMark_of_mem_marks_phonemes : ∀ m ∈ p.marks, isMark m = true := by
  obtain ⟨before, c, t, _, _, rfl⟩ := exists_firstGrapheme_of_mem DigraphTable.rules [] word p hp
  exact fun m hm => Text.isMark_of_mem_marks hm

/-- The marks of a phoneme are decomposed and in canonical order. -/
theorem nfd_marks_of_mem_phonemes : p.marks.nfd = p.marks := by
  have whole := nfd_text_of_mem_phonemes hp
  have ordered := p.text.ordered_nfd
  rw [whole, Text.Ordered, List.isChain_append] at ordered
  have final : ∀ m ∈ p.marks, decompose m = [m] := by
    intro m hm
    apply decompose_eq_self_of_mem_nfd (t := p.text)
    rw [whole]
    exact List.mem_append_right _ hm
  rw [Text.nfd, flatMap_decompose_eq_self final, reorderMarks_of_ordered ordered.2.1]

end Mem

/-! ## Keys -/

/-- A key of one letter at most. -/
def Text.IsLetterKey (key : Text) : Prop := key = [] ∨ ∃ k, key = [k] ∧ IsKeyLetter k

theorem lowerLetter_of_hangulPage {c : Char} (page : c.toNat / 256 = 0x11) : lowerLetter c = c := by
  have spares : CodeRun.spare lowerRuns (0x1100, 0x11FF, 1) = true := by decide +kernel
  have low : 0x1100 ≤ c.toNat := by omega
  have high : c.toNat ≤ 0x11FF := by omega
  exact CodeRun.apply_of_spare spares ⟨low, high, Nat.mod_one _⟩

/-- The letters of a Hangul syllable have no case. -/
theorem lower_of_hangulPage {t : Text} (page : ∀ c ∈ t, c.toNat / 256 = 0x11) : t.lower = t := by
  have sigma : 'Σ' ∉ t := fun h => absurd (page 'Σ' h) (by decide)
  have dotted : 'İ' ∉ t := fun h => absurd (page 'İ' h) (by decide)
  have same : t.map lowerLetter = t.map id :=
    List.map_congr_left fun c hc => lowerLetter_of_hangulPage (page c hc)
  rw [Text.lower, lowerFrom_eq_map [] t sigma dotted, same, List.map_id]

/-- The key of a phoneme has one letter at most, or it has several letters of Hangul. -/
def Text.IsPhonemeKey (key : Text) : Prop :=
  key.IsLetterKey ∨ 2 ≤ key.length ∧ ∀ k ∈ key, k.toNat / 256 = 0x11

theorem IsLetterBase.isPhonemeKey_lower {base : Text} (h : IsLetterBase base)
    (lettered : ∀ d ∈ base, isMark d = false) (final : ∀ d ∈ base, decompose d = [d]) :
    base.lower.IsPhonemeKey := by
  rcases h with rfl | ⟨b, rfl⟩ | ⟨several, page⟩
  · exact Or.inl (Or.inl rfl)
  · exact Or.inl (Or.inr (exists_lower_eq_keyLetter (lettered b List.mem_cons_self)
      (final b List.mem_cons_self)))
  · rw [lower_of_hangulPage page]
    exact Or.inr ⟨several, page⟩

theorem isPhonemeKey_of_mem_phonemes {word : Text} {p : Phoneme}
    (hp : p ∈ phonemes DigraphTable.rules word) : p.key.IsPhonemeKey := by
  obtain ⟨before, c, t, _, member, rfl⟩ :=
    exists_firstGrapheme_of_mem DigraphTable.rules [] word p hp
  show ((firstGrapheme DigraphTable.rules c t).key DigraphTable.rules).IsPhonemeKey
  cases digraph : (firstGrapheme DigraphTable.rules c t).isDigraph with
  | true =>
    have lists := DigraphTable.lists_of_isPlain DigraphTable.isPlain_rules word
    have listed := unlisted?_eq_none_of_mem_graphemes lists member
    obtain ⟨s, single, letter, _, final, small⟩ :=
      standIn_rules (Grapheme.standIn?_eq_some_key digraph listed)
    exact Or.inl (Or.inr ⟨s, single, letter, final, small⟩)
  | false =>
    obtain ⟨letters, marks, whole, lettered, marked, shape⟩ :=
      exists_nfd_text_firstGrapheme DigraphTable.sharesLetters_rules c t
    rw [Grapheme.key_of_letter DigraphTable.ne_nil_rules digraph,
      (base_and_marks_of_nfd_eq_append whole lettered marked).1]
    refine (shape digraph).isPhonemeKey_lower lettered fun d hd => ?_
    exact decompose_eq_self_of_mem_nfd (whole ▸ List.mem_append_left marks hd)

end SoundLaw
