/-
  SoundLaw.Proofs.Syllable.Structure

  The structure and the weight of a syllable follow from its onset, nucleus and coda, though both are
  told from its text. All plain vowels of a syllable are in its nucleus (`not_isLetter_of_outside`), and
  a nucleus is a vowel with its marks or two plain letters (`nucleus_cases`). The two readings
  differ in the letters `y` and `w`: the text of a syllable takes the one for a vowel and the other for
  a consonant, whatever the nuclei are made of (`prosody_of_parts`).
-/
import SoundLaw.Proofs.Syllable.Heaviness
import SoundLaw.Proofs.Syllable.Nuclei

namespace SoundLaw

variable {v : VowelSystem}

/-! ## Letters of systems -/

theorem isLetter_of_plain {b : Char} (vowel : VowelSystem.isLetter {} b = true) (v : VowelSystem) :
    v.isLetter b = true := by
  rw [VowelSystem.isLetter, List.contains_iff_mem] at vowel ⊢
  have included : VowelSystem.letters {} ⊆ v.letters := by
    obtain ⟨_ | _, _ | _⟩ := v <;> decide
  exact included vowel

theorem isLetter_of_mem {b : Char}
    (vowel : lowerLetter b ∈ ['a', 'e', 'o', 'u'] ∨ lowerLetter b ∈ ['e', 'i', 'u']) :
    VowelSystem.isLetter {} b = true := by
  have first : ['a', 'e', 'o', 'u'] ⊆ VowelSystem.letters {} := by decide
  have second : ['e', 'i', 'u'] ⊆ VowelSystem.letters {} := by decide
  rw [VowelSystem.isLetter, List.contains_iff_mem]
  exact vowel.elim (fun h => first h) fun h => second h

theorem mem_letters_of_isLetter {b : Char} (vowel : v.isLetter b = true) :
    lowerLetter b ∈ ['a', 'e', 'i', 'o', 'u', 'œ', 'y', 'w'] := by
  rw [VowelSystem.isLetter, List.contains_iff_mem] at vowel
  have included : v.letters ⊆ ['a', 'e', 'i', 'o', 'u', 'œ', 'y', 'w'] := by
    obtain ⟨_ | _, _ | _⟩ := v <;> decide
  exact included vowel

theorem mem_base_flatMap {ps : List Phoneme} {b : Char} :
    b ∈ Text.base (ps.flatMap Phoneme.text) ↔ ∃ p ∈ ps, b ∈ p.text.base := by
  simp only [Text.base, List.mem_filter, mem_nfd, List.mem_flatMap]
  constructor
  · rintro ⟨⟨c, ⟨p, hp, hc⟩, part⟩, letter⟩
    exact ⟨p, hp, ⟨c, hc, part⟩, letter⟩
  · rintro ⟨p, hp, ⟨c, hc, part⟩, letter⟩
    exact ⟨⟨c, ⟨p, hp, hc⟩, part⟩, letter⟩

/-! ## Texts of syllables -/

/-- What is known of the texts of the onset, the nucleus and the coda of a syllable: all plain vowels
    are in the nucleus, all of whose letters are vowels in some system, and no mark is cut off its
    letter. -/
structure IsSyllableText (onset nucleus coda : Text) : Prop where
  before : ∀ b ∈ onset.base, VowelSystem.isLetter {} b = false
  vowels : ∀ b ∈ nucleus.base, lowerLetter b ∈ ['a', 'e', 'i', 'o', 'u', 'œ', 'y', 'w']
  after : ∀ b ∈ coda.base, VowelSystem.isLetter {} b = false
  filled : nucleus ≠ []
  nucleusBegins : ∀ c ∈ nucleus.head?, isMark c = false
  codaBegins : ∀ c ∈ coda.head?, isMark c = false

theorem lastLetter?_append {a b : Text} (filled : b ≠ []) :
    (a ++ b).lastLetter? = b.lastLetter? := by
  rw [Text.lastLetter?, Text.lastLetter?, List.getLast?_append_of_ne_nil a filled]

theorem exists_of_lastLetter? {t : Text} {k : Char} (last : t.lastLetter? = some k) :
    ∃ b ∈ t.base, lowerLetter b = k := by
  obtain ⟨c, hc, here⟩ := Option.bind_eq_some_iff.1 last
  obtain ⟨b, hb, small⟩ := Option.map_eq_some_iff.1 here
  obtain ⟨decomposed, letter⟩ := List.mem_filter.1 (List.mem_of_mem_head? hb)
  obtain ⟨d, hd, part⟩ := mem_nfd.1 decomposed
  rw [List.mem_singleton.1 hd] at part
  exact ⟨b, List.mem_filter.2 ⟨mem_nfd.2 ⟨c, List.mem_of_getLast? hc, part⟩, letter⟩, small⟩

theorem exists_lastLetter? {t : Text} (filled : t ≠ [])
    (letter : ∀ c ∈ t.getLast?, isMark c = false) : ∃ k, t.lastLetter? = some k := by
  have last := List.getLast?_eq_getLast_of_ne_nil filled
  have unmarked := letter _ last
  obtain ⟨d, rest, whole, plain, _⟩ := exists_decompose_eq_cons unmarked
  have member : d ∈ Text.base [t.getLast filled] :=
    List.mem_filter.2 ⟨mem_nfd.2 ⟨_, List.mem_singleton_self _, by simp [whole]⟩, by simp [plain]⟩
  cases base : Text.base [t.getLast filled] with
  | nil => simp [base] at member
  | cons b _ => exact ⟨lowerLetter b, by simp [Text.lastLetter?, last, base]⟩

namespace IsSyllableText

variable {onset nucleus coda : Text} (h : IsSyllableText onset nucleus coda)

include h

/-- A syllable ends in a consonant by its coda, or by a nucleus that ends in `w`. -/
theorem endsInConsonant_iff (whole : ∀ c ∈ onset ++ nucleus ++ coda, isBlank c = false)
    (ends : ∀ c ∈ coda.getLast?, isMark c = false) :
    Text.endsInConsonant (onset ++ nucleus ++ coda) = true ↔
      coda ≠ [] ∧ coda.lastLetter? ≠ some 'y' ∨ coda = [] ∧ nucleus.lastLetter? = some 'w' := by
  rw [endsInConsonant_eq whole]
  by_cases empty : coda = []
  · rw [empty, List.append_nil, lastLetter?_append h.filled]
    cases last : nucleus.lastLetter? with
    | none => simp
    | some k =>
      obtain ⟨b, hb, rfl⟩ := exists_of_lastLetter? last
      have vowels : (['a', 'e', 'i', 'o', 'u', 'œ', 'y', 'w'].all fun k =>
          (!VowelSystem.lettered.letters.contains k) == (k == 'w')) = true := by decide
      have same := beq_iff_eq.1 (List.all_eq_true.1 vowels _ (h.vowels b hb))
      rw [Bool.eq_iff_iff, beq_iff_eq] at same
      simpa using same
  · obtain ⟨k, last⟩ := exists_lastLetter? empty ends
    obtain ⟨b, hb, rfl⟩ := exists_of_lastLetter? last
    have consonant := h.after b hb
    have letters : VowelSystem.lettered.letters = VowelSystem.letters {} ++ ['y'] := rfl
    rw [VowelSystem.isLetter] at consonant
    rw [lastLetter?_append empty, last, Option.any_some, letters, List.contains_append, consonant]
    simp [empty]

/-- A long vowel of a syllable is in its nucleus. -/
theorem hasLongVowel_eq :
    Text.hasLongVowel (onset ++ nucleus ++ coda) = nucleus.hasLongVowel := by
  have none : ∀ {x : Text}, (∀ b ∈ x.base, VowelSystem.isLetter {} b = false) →
      x.hasLongVowel = false := by
    intro x consonants
    rw [← Bool.not_eq_true]
    intro long
    obtain ⟨b, hb, vowel⟩ := exists_vowel_of_hasLongVowel long
    rw [consonants b hb] at vowel
    exact absurd vowel (by simp)
  rw [hasLongVowel_append h.codaBegins, hasLongVowel_append h.nucleusBegins, none h.before,
    none h.after, Bool.false_or, Bool.or_false]

theorem base_eq : Text.base (onset ++ nucleus ++ coda) = onset.base ++ nucleus.base ++ coda.base := by
  rw [(base_append_and_marks_append h.codaBegins).1,
    (base_append_and_marks_append h.nucleusBegins).1]

/-- Around a single vowel, a diphthong can be spelled by an `a` with a diacritic and a `w` alone. -/
theorem hasDiphthong_iff_of_single {b : Char} (single : nucleus.base = [b]) :
    Text.hasDiphthong (onset ++ nucleus ++ coda) = true ↔
      nucleus.firstLetter? = some 'a' ∧ coda.firstLetter? = some 'w' := by
  rw [hasDiphthong_iff, h.base_eq, single, Text.firstLetter?, Text.firstLetter?, single]
  constructor
  · rintro ⟨k, l, pair, occurs⟩
    obtain ⟨front, c, d, rest, whole, rfl, rfl⟩ := pair_infix_map_iff.1 occurs
    obtain ⟨first, second⟩ := letters_of_mem_diphthongs pair
    have plain : VowelSystem.isLetter {} c = true := isLetter_of_mem (.inl first)
    rw [List.append_assoc, List.singleton_append] at whole
    -- The vowel of the pair is in the nucleus, so its other letter begins the coda.
    rcases cases_of_append_cons_eq whole with ⟨x, left, _⟩ | ⟨_, rfl, right⟩ | ⟨x, _, right⟩
    · rw [h.before c (by simp [left])] at plain
      exact absurd plain (by simp)
    · rcases second with vowel | ⟨a, w⟩
      · have consonant := h.after d (by simp [right])
        rw [isLetter_of_mem (.inr vowel)] at consonant
        exact absurd consonant (by simp)
      · simp [right, a, w]
    · rw [h.after c (by simp [right])] at plain
      exact absurd plain (by simp)
  · rintro ⟨first, second⟩
    obtain ⟨d, rest, right⟩ : ∃ d rest, coda.base = d :: rest := by
      obtain ⟨d, begins, _⟩ := Option.map_eq_some_iff.1 second
      exact ⟨d, _, (List.head?_eq_some_iff.1 begins).choose_spec⟩
    rw [right] at second ⊢
    refine ⟨'a', 'w', by decide, pair_infix_map_iff.2 ⟨onset.base, b, d, rest, by simp, ?_, ?_⟩⟩
    · simpa using first
    · simpa using second

/-- A nucleus that is a diphthong makes the syllable heavy. -/
theorem hasDiphthong_of_pair {c d : Char} (base : nucleus.base = [c, d])
    (pair : [lowerLetter c, lowerLetter d] ∈ diphthongs) :
    Text.hasDiphthong (onset ++ nucleus ++ coda) = true := by
  refine hasDiphthong_iff.2 ⟨_, _, pair, pair_infix_map_iff.2 ?_⟩
  exact ⟨onset.base, c, d, coda.base, by rw [h.base_eq, base]; simp, rfl, rfl⟩

end IsSyllableText

/-! ## One syllable -/

/-- A single vowel has no mark in front of it. -/
theorem isMark_head?_of_isVowel_key {compound : Bool} {t : Text} {p : Phoneme}
    (hp : p ∈ phonemes (DigraphTable.forSyllables compound) t) (vowel : v.isVowel p.key = true) :
    p.text ≠ [] ∧ ∀ c ∈ p.text.head?, isMark c = false := by
  obtain ⟨b, single, _⟩ := exists_base_of_isVowel_key hp vowel
  rcases text_cases_of_mem_phonemes hp with ⟨_, _, _, c, marks, text, marked⟩ | ⟨_, consonant⟩
  · rw [text] at single ⊢
    refine ⟨by simp, ?_⟩
    rintro _ ⟨⟩
    rw [← Bool.not_eq_true]
    intro mark
    rw [base_of_marks_only (List.forall_mem_cons.2 ⟨mark, marked⟩)] at single
    exact absurd single (by simp)
  · rw [consonant v] at vowel
    exact absurd vowel (by simp)

/-- A vowel is long by itself as it is in its word. -/
theorem hasLongVowel_of_isVowel_key {compound : Bool} {t : Text} {p : Phoneme}
    (hp : p ∈ phonemes (DigraphTable.forSyllables compound) t) (vowel : v.isVowel p.key = true) :
    p.text.hasLongVowel = p.isLongVowel := by
  rcases text_cases_of_mem_phonemes hp with ⟨_, key, marks, c, rest, text, marked⟩ | ⟨_, consonant⟩
  · rw [Phoneme.isLongVowel, key, marks, text, hasLongVowel_letter_marks marked]
  · rw [consonant v] at vowel
    exact absurd vowel (by simp)

section Syllable

variable {compound : Bool} {t : Text} {n : Nucleus}
  (found : v.nuclei (phonemes (DigraphTable.forSyllables compound) t) = [n])

include found

/-- No plain vowel is outside of the nucleus. -/
theorem not_isLetter_of_outside {p : Phoneme}
    (outside : p ∈ (phonemes (DigraphTable.forSyllables compound) t).take n.start ∨
      p ∈ (phonemes (DigraphTable.forSyllables compound) t).drop n.stop) :
    ∀ b ∈ p.text.base, VowelSystem.isLetter {} b = false := by
  intro b hb
  rw [← Bool.not_eq_true]
  intro vowel
  have hp : p ∈ phonemes (DigraphTable.forSyllables compound) t :=
    outside.elim List.mem_of_mem_take List.mem_of_mem_drop
  have key := (isVowel_key_of_mem_base (v := v) hp hb (isLetter_of_plain vowel _)).2
  rw [isLetter_of_plain vowel v] at key
  -- So the phoneme belongs to a nucleus, of which there is only one.
  have inside : ∀ i, (phonemes (DigraphTable.forSyllables compound) t)[i]? = some p →
      n.start ≤ i ∧ i < n.stop := by
    intro i here
    obtain ⟨m, hm, first, last⟩ := exists_nucleusFrom_of_isVowel 0 here key
    rw [← VowelSystem.nuclei, found, List.mem_singleton] at hm
    rw [← hm]
    omega
  rcases outside with before | after
  · obtain ⟨i, hi⟩ := List.getElem?_of_mem before
    rw [List.getElem?_take] at hi
    split at hi
    · have place := inside i hi
      omega
    · exact absurd hi (by simp)
  · obtain ⟨i, hi⟩ := List.getElem?_of_mem after
    rw [List.getElem?_drop] at hi
    have place := inside _ hi
    omega

/-- A nucleus is a vowel with its marks, or a diphthong of two plain letters. -/
theorem nucleus_cases :
    (n.stop = n.start + 1 ∧ ∃ p ∈ phonemes (DigraphTable.forSyllables compound) t,
      ((phonemes (DigraphTable.forSyllables compound) t).take n.stop).drop n.start = [p] ∧
        ∃ b, p.text.base = [b] ∧ v.isLetter b = true ∧ v.isVowel p.key = true) ∨
    (n.stop = n.start + 2 ∧ ∃ c d,
      (((phonemes (DigraphTable.forSyllables compound) t).take n.stop).drop n.start).flatMap
        Phoneme.text = [c, d] ∧ Text.base [c, d] = [c, d] ∧
          [lowerLetter c, lowerLetter d] ∈ diphthongs) := by
  have listed : n ∈ v.nuclei (phonemes (DigraphTable.forSyllables compound) t) := by simp [found]
  generalize read : phonemes (DigraphTable.forSyllables compound) t = ps at listed
  rcases (fits_of_mem_nuclei listed).cases_of_nuclei with
    ⟨p, q, first, second, two, opens⟩ | ⟨p, here, one, vowel, _⟩
  · right
    obtain ⟨c, d, text, base, pair⟩ := exists_pair_of_isDiphthong opens
    have run : (ps.take n.stop).drop n.start = [p, q] := by
      rw [two, List.drop_take, Nat.add_sub_cancel_left, List.take_add_one, List.take_add_one,
        List.getElem?_drop, List.getElem?_drop, Nat.add_zero, first, second]
      rfl
    refine ⟨two, c, d, ?_, ?_, pair⟩
    · rw [run]
      simpa using text
    · rwa [text] at base
  · left
    have run : (ps.take n.stop).drop n.start = [p] := by
      rw [one, List.drop_take, Nat.add_sub_cancel_left, List.take_add_one, List.getElem?_drop,
        Nat.add_zero, here]
      rfl
    have hp : p ∈ ps := List.mem_of_getElem? here
    obtain ⟨b, single, letter⟩ := exists_base_of_isVowel_key (read ▸ hp) vowel
    exact ⟨one, p, hp, run, b, single, letter, vowel⟩

theorem isSyllableText :
    IsSyllableText
      (((phonemes (DigraphTable.forSyllables compound) t).take n.start).flatMap Phoneme.text)
      ((((phonemes (DigraphTable.forSyllables compound) t).take n.stop).drop n.start).flatMap
        Phoneme.text)
      (((phonemes (DigraphTable.forSyllables compound) t).drop n.stop).flatMap Phoneme.text) := by
  have before : ∀ b ∈ Text.base (((phonemes (DigraphTable.forSyllables compound) t).take
      n.start).flatMap Phoneme.text), VowelSystem.isLetter {} b = false := by
    intro b hb
    obtain ⟨p, hp, here⟩ := mem_base_flatMap.1 hb
    exact not_isLetter_of_outside found (.inl hp) b here
  have after : ∀ b ∈ Text.base (((phonemes (DigraphTable.forSyllables compound) t).drop
      n.stop).flatMap Phoneme.text), VowelSystem.isLetter {} b = false := by
    intro b hb
    obtain ⟨p, hp, here⟩ := mem_base_flatMap.1 hb
    exact not_isLetter_of_outside found (.inr hp) b here
  -- A nucleus is one phoneme with a vowel as its key, or the two letters of a diphthong.
  rcases nucleus_cases found with ⟨one, p, hp, run, b, single, letter, vowel⟩ |
    ⟨two, c, d, text, base, pair⟩
  · obtain ⟨filled, begins⟩ := isMark_head?_of_isVowel_key hp vowel
    rw [run, List.flatMap_singleton]
    refine ⟨before, fun e he => ?_, after, filled, begins, isMark_head?_drop_phonemes _ _ (by omega)⟩
    rw [single, List.mem_singleton] at he
    exact he ▸ mem_letters_of_isLetter letter
  · rw [text]
    have unmarked : isMark c = false := Text.not_isMark_of_mem_base (t := [c, d]) (by simp [base])
    refine ⟨before, fun e he => ?_, after, by simp, by simpa using unmarked,
      isMark_head?_drop_phonemes _ _ (by omega)⟩
    have letters : diphthongLetters ⊆ ['a', 'e', 'i', 'o', 'u', 'œ', 'y', 'w'] := by decide
    rw [base, List.mem_cons, List.mem_singleton] at he
    rcases he with rfl | rfl
    · exact letters (mem_diphthongLetters pair).1
    · exact letters (mem_diphthongLetters pair).2

end Syllable

/-! ## Words -/

theorem join_ofPart_of_isReadAlone {compound : Bool} {part : Part}
    (h : part.IsReadAlone v compound) (isStressed : Bool) :
    (Syllable.ofPart part isStressed).onset ++ (Syllable.ofPart part isStressed).nucleus ++
      (Syllable.ofPart part isStressed).coda = part.text := by
  obtain ⟨⟨offset, moved⟩, found⟩ := h
  have text : part.text = part.phonemes.flatMap Phoneme.text := by
    rw [moved, flatMap_text_map_moved, flatMap_text_phonemes]
  refine join_ofPart text (fun m hm => ?_) isStressed
  have listed : m ∈ v.nuclei (phonemes (DigraphTable.forSyllables compound) part.text) := by
    rw [found, Option.mem_toList]
    exact hm
  exact Nat.le_of_lt ((follow_nuclei v _).inside m listed).2.1

section Part

variable {compound : Bool} {part : Part} (h : part.IsReadAlone v compound) {n : Nucleus}
  (nucleus : part.nucleus = some n)

include h nucleus

theorem isSyllableText_ofPart (isStressed : Bool) :
    IsSyllableText (Syllable.ofPart part isStressed).onset (Syllable.ofPart part isStressed).nucleus
      (Syllable.ofPart part isStressed).coda := by
  obtain ⟨⟨offset, moved⟩, found⟩ := h
  rw [nucleus] at found
  have parts := isSyllableText found
  rw [Syllable.ofPart, nucleus, moved]
  simpa only [← List.map_take, ← List.map_drop, flatMap_text_map_moved] using parts

/-- What makes a syllable heavy, apart from its end. -/
theorem long_or_diphthong_iff (isStressed : Bool) :
    (part.text.hasLongVowel = true ∨ part.text.hasDiphthong = true) ↔
      n.stop = n.start + 2 ∨
        (∃ p ∈ (part.phonemes.take n.stop).drop n.start, p.isLongVowel = true) ∨
          (Syllable.ofPart part isStressed).nucleus.firstLetter? = some 'a' ∧
            (Syllable.ofPart part isStressed).coda.firstLetter? = some 'w' := by
  have texts := isSyllableText_ofPart h nucleus isStressed
  have whole := join_ofPart_of_isReadAlone h isStressed
  obtain ⟨⟨offset, moved⟩, found⟩ := h
  rw [nucleus] at found
  have spelled : (Syllable.ofPart part isStressed).nucleus =
      (((phonemes (DigraphTable.forSyllables compound) part.text).take n.stop).drop
        n.start).flatMap Phoneme.text := by
    rw [Syllable.ofPart, nucleus, moved]
    simp only [← List.map_take, ← List.map_drop, flatMap_text_map_moved]
  rw [← whole, texts.hasLongVowel_eq]
  rcases nucleus_cases found with ⟨one, p, hp, run, b, single, letter, vowel⟩ |
    ⟨two, c, d, text, base, pair⟩
  · have text : (Syllable.ofPart part isStressed).nucleus = p.text := by
      rw [spelled, run, List.flatMap_singleton]
    have long : (∃ p ∈ (part.phonemes.take n.stop).drop n.start, p.isLongVowel = true) ↔
        p.isLongVowel = true := by
      rw [moved, ← List.map_take, ← List.map_drop, run]
      simp [Phoneme.isLongVowel, Phoneme.moved]
    rw [texts.hasDiphthong_iff_of_single (text ▸ single), long, text,
      hasLongVowel_of_isVowel_key hp vowel]
    have single : ¬n.stop = n.start + 2 := by omega
    simp only [single, false_or]
  · rw [← spelled] at text
    have diphthong := texts.hasDiphthong_of_pair (text ▸ base) pair
    simp only [diphthong, two, or_true, true_or]

end Part

/-- The structure and the weight of a syllable follow from its parts, but for codas that end in a mark
    by itself. The letter `y` never closes a syllable, and the letter `w` always does. -/
theorem prosody_of_parts (v : VowelSystem) (word : Text) (compound : Bool)
    (filled : ∀ c ∈ word, isBlank c = false) :
    ∀ (i : Nat) (s : Syllable), (v.analyse word compound)[i]? = some s →
      ∃ part : Part, (v.divide word compound)[i]? = some part ∧
        s = Syllable.ofPart part s.isStressed ∧ ∀ n ∈ part.nucleus,
          ((∀ c ∈ s.coda.getLast?, isMark c = false) →
            (s.isClosed = true ↔
              s.coda ≠ [] ∧ s.coda.lastLetter? ≠ some 'y' ∨
                s.coda = [] ∧ s.nucleus.lastLetter? = some 'w')) ∧
          (s.weight = .heavy ↔
            s.isClosed = true ∨ n.stop = n.start + 2 ∨
              (∃ p ∈ (part.phonemes.take n.stop).drop n.start, p.isLongVowel = true) ∨
                s.nucleus.firstLetter? = some 'a' ∧ s.coda.firstLetter? = some 'w') := by
  intro i s listed
  rw [getElem?_analyse, Option.map_eq_some_iff] at listed
  obtain ⟨part, here, rfl⟩ := listed
  refine ⟨part, here, by rw [isStressed_ofPart], fun n nucleus => ?_⟩
  have member : part ∈ v.divide word compound := List.mem_of_getElem? here
  have alone := isReadAlone_of_mem_divide member
  generalize (stressed? ((v.divide word compound).map (·.text.weight)) == some i) = isStressed
  have whole := join_ofPart_of_isReadAlone alone isStressed
  have inside : ∀ c ∈ part.text, isBlank c = false := by
    intro c hc
    refine filled c ?_
    rw [← flatMap_text_divide v word compound]
    exact List.mem_flatMap.2 ⟨part, member, hc⟩
  constructor
  · intro ends
    rw [isClosed_ofPart, ← whole]
    exact (isSyllableText_ofPart alone nucleus isStressed).endsInConsonant_iff (whole ▸ inside) ends
  · have reasons := long_or_diphthong_iff alone nucleus isStressed
    have heavy : part.text.weight = .heavy ↔ (part.text.hasLongVowel = true ∨
        part.text.hasDiphthong = true) ∨ part.text.endsInConsonant = true := by
      rw [Text.weight, ← Bool.or_eq_true, ← Bool.or_eq_true]
      split <;> simp_all
    rw [weight_ofPart, isClosed_ofPart, heavy, reasons, or_comm]

-- The second syllable of `kastēḷ` ends in a consonant with a composed mark.
theorem prosody_of_parts_of_closedSyllable :
    let word : Text := ['k', 'a', 's', 't', 'ē', 'ḷ']
    (∀ c ∈ word, isBlank c = false) ∧
      ∃ s : Syllable, (VowelSystem.analyse {} word false)[1]? = some s ∧ s.coda = ['ḷ'] ∧
        s.isClosed = true ∧ s.weight = .heavy := by
  intro word
  have filled : ∀ c ∈ word, isBlank c = false := by
    have each : (word.all fun c => isBlank c == false) = true := by decide
    simpa only [List.all_eq_true, beq_iff_eq] using each
  have listed : (VowelSystem.analyse {} word false)[1]? = some
      { text := ['t', 'ē', 'ḷ'], onset := ['t'], nucleus := ['ē'], coda := ['ḷ'],
        weight := .heavy, isClosed := true, isStressed := false } := by decide +kernel
  have nucleus : ∀ part : Part, (VowelSystem.divide {} word false)[1]? = some part →
      part.nucleus = some ⟨1, 2⟩ := by
    have here : (VowelSystem.divide {} word false)[1]?.map Part.nucleus = some (some ⟨1, 2⟩) := by
      decide +kernel
    intro part hp
    simpa [hp] using here
  obtain ⟨part, here, _, prosody⟩ := prosody_of_parts {} word false filled 1 _ listed
  obtain ⟨closed, heavy⟩ := prosody ⟨1, 2⟩ (nucleus part here)
  have ends : ∀ c ∈ List.getLast? ['ḷ'], isMark c = false := by
    rintro c ⟨⟩
    decide +kernel
  have isClosed := (closed ends).2 (.inl (by decide +kernel))
  exact ⟨filled, _, listed, rfl, isClosed, heavy.2 (.inl isClosed)⟩

/-- A coda that ends in `y` leaves its syllable open and light, a nucleus that ends in `w` closes it, a
    long `y` is no long vowel, and an `a` with a grave makes a diphthong with the `w` of the coda. -/
theorem prosody_differs_from_parts :
    (VowelSystem.analyse {} ['a', 'y'] false).map
        (fun s => (s.nucleus, s.coda, s.isClosed, s.weight)) = [(['a'], ['y'], false, .light)] ∧
    (VowelSystem.analyse {} ['a', 'w'] false).map
        (fun s => (s.nucleus, s.coda, s.isClosed, s.weight)) = [(['a', 'w'], [], true, .heavy)] ∧
    (VowelSystem.analyse ⟨true, false⟩ ['ý'] false).map
        (fun s => (s.nucleus, s.coda, s.isClosed, s.weight)) = [(['ý'], [], false, .light)] ∧
    (VowelSystem.analyse {} ['à', 'w', 'y'] false).map
        (fun s => (s.nucleus, s.coda, s.isClosed, s.weight)) =
      [(['à'], ['w', 'y'], false, .heavy)] := by
  refine ⟨?_, ?_, ?_, ?_⟩ <;> decide +kernel

end SoundLaw
