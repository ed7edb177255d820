/-
  SoundLaw.Proofs.Syllable.Heaviness

  What makes a text heavy, told from its base letters. It has a diphthong exactly if two of its base
  letters that are next to each other spell one (`hasDiphthong_iff`), and a long vowel exactly
  if one of its pieces has one (`hasLongVowel_append`). Its end is a consonant exactly if its last letter
  is one, where the marks composed with that letter do not count (`endsInConsonant_eq`).
-/
import SoundLaw.Proofs.Syllable.Reanalysis
import SoundLaw.Proofs.Syllable.VowelLetters

namespace SoundLaw

/-! ## Diphthongs -/

theorem occursIn_iff {part t : Text} : part.occursIn t = true ↔ part <:+: t := by
  induction t with
  | nil => simp [Text.occursIn]
  | cons c t ih =>
    rw [Text.occursIn, Bool.or_eq_true, List.isPrefixOf_iff_prefix, ih, List.infix_cons_iff]

theorem pair_infix_map_iff {α β : Type} {f : α → β} {k l : β} {xs : List α} :
    [k, l] <:+: xs.map f ↔
      ∃ front c d rest, xs = front ++ c :: d :: rest ∧ f c = k ∧ f d = l := by
  constructor
  · rintro ⟨front, rest, whole⟩
    rw [List.append_assoc, eq_comm, List.map_eq_append_iff] at whole
    obtain ⟨front, pair, rfl, _, whole⟩ := whole
    obtain ⟨c, pair, rfl, first, whole⟩ := List.map_eq_cons_iff.1 whole
    obtain ⟨d, rest, rfl, second, _⟩ := List.map_eq_cons_iff.1 whole
    exact ⟨front, c, d, rest, rfl, first, second⟩
  · rintro ⟨front, c, d, rest, rfl, rfl, rfl⟩
    exact ⟨front.map f, rest.map f, by simp⟩

/-- The letters of diphthongs. -/
def diphthongLetters : Text := ['a', 'e', 'i', 'o', 'u', 'w']

theorem exists_pair_of_mem_diphthongs {d : Text} (hd : d ∈ diphthongs) : ∃ k l, d = [k, l] := by
  simp only [diphthongs, List.mem_cons, List.not_mem_nil, or_false] at hd
  rcases hd with rfl | rfl | rfl | rfl | rfl | rfl | rfl <;> exact ⟨_, _, rfl⟩

/-- The first letter of a diphthong is a vowel, and so is the second one unless it is the `w` of
    `aw`. -/
theorem letters_of_mem_diphthongs {k l : Char} (h : [k, l] ∈ diphthongs) :
    k ∈ ['a', 'e', 'o', 'u'] ∧ (l ∈ ['e', 'i', 'u'] ∨ k = 'a' ∧ l = 'w') := by
  simp only [diphthongs, List.mem_cons, List.not_mem_nil, or_false, List.cons.injEq, and_true] at h
  rcases h with ⟨rfl, rfl⟩ | ⟨rfl, rfl⟩ | ⟨rfl, rfl⟩ | ⟨rfl, rfl⟩ | ⟨rfl, rfl⟩ | ⟨rfl, rfl⟩ |
    ⟨rfl, rfl⟩ <;> decide

theorem mem_diphthongLetters {k l : Char} (h : [k, l] ∈ diphthongs) :
    k ∈ diphthongLetters ∧ l ∈ diphthongLetters := by
  have first : ['a', 'e', 'o', 'u'] ⊆ diphthongLetters := by decide
  have second : ['e', 'i', 'u'] ⊆ diphthongLetters := by decide
  obtain ⟨hk, hl | ⟨rfl, rfl⟩⟩ := letters_of_mem_diphthongs h
  · exact ⟨first hk, second hl⟩
  · decide

/-- Lower case goes letter by letter, a final sigma aside. -/
theorem exists_lowerBetween_eq (before after : Text) {c : Char} (undotted : c ≠ 'İ') :
    ∃ d, lowerBetween before c after = [d] ∧
      ∀ k ∈ diphthongLetters, d = k ↔ lowerLetter c = k := by
  rw [lowerBetween]
  split
  · next sigma =>
    have apart : (diphthongLetters.all fun k => 'ς' != k && 'σ' != k) = true := by decide
    have others : ∀ k ∈ diphthongLetters, 'ς' ≠ k ∧ 'σ' ≠ k := by
      simpa [List.all_eq_true] using apart
    rw [sigma, lowerLetter_sigma]
    split
    · exact ⟨'ς', rfl, fun k hk => iff_of_false (others k hk).1 (others k hk).2⟩
    · exact ⟨'σ', rfl, fun k _ => Iff.rfl⟩
  · exact ⟨_, rfl, fun k _ => Iff.rfl⟩

theorem pair_infix_lowerFrom_iff {k l : Char} (hk : k ∈ diphthongLetters)
    (hl : l ∈ diphthongLetters) (before : Text) {t : Text} (undotted : 'İ' ∉ t) :
    [k, l] <:+: lowerFrom before t ↔ [k, l] <:+: t.map lowerLetter := by
  induction t generalizing before with
  | nil => rfl
  | cons c t ih =>
    rw [List.mem_cons, not_or] at undotted
    obtain ⟨d, here, same⟩ := exists_lowerBetween_eq before t (Ne.symm undotted.1)
    rw [lowerFrom, here, List.singleton_append, List.map_cons, List.infix_cons_iff,
      List.infix_cons_iff, ih (c :: before) undotted.2, List.cons_prefix_cons,
      List.cons_prefix_cons, eq_comm, same k hk, eq_comm (a := k)]
    -- The next letter of the text gives the next one of its lower case.
    cases t with
    | nil => rfl
    | cons e t =>
      rw [List.mem_cons, not_or] at undotted
      obtain ⟨f, next, same'⟩ := exists_lowerBetween_eq (c :: before) t (Ne.symm undotted.2.1)
      rw [lowerFrom, next, List.singleton_append, List.map_cons, List.cons_prefix_cons,
        List.cons_prefix_cons, eq_comm (a := l), same' l hl, eq_comm (a := l)]
      simp only [List.nil_prefix]

/-- No plain letter is composed with what follows it. -/
theorem hangulSyllable?_of_low {c : Char} (low : c.toNat < 0x80) (d : Char) :
    hangulSyllable? c d = none := by
  have early : ¬0x1100 ≤ c.toNat := by omega
  have early' : ¬0xAC00 ≤ c.toNat := by omega
  simp [hangulSyllable?, early, early']

/-- Plain letters stay where they are when the letters around them are composed. -/
theorem nfc_append_pair {front rest : Text} {c d : Char} (first : c.toNat < 0x80)
    (second : d.toNat < 0x80) (begins : ∀ e ∈ rest.head?, isMark e = false) :
    (front ++ c :: d :: rest).nfc = front.nfc ++ c :: d :: rest.nfc := by
  have own := (forms_of_low (t := [c, d]) (by simp [first, second])).2
  have letter : ∀ e ∈ (c :: d :: rest).head?, isMark e = false := by
    rintro e ⟨⟩
    exact isMark_eq_false_of_lt (by omega)
  have apart : ∀ e ∈ front.nfc.getLast?, ∀ f ∈ (c :: d :: rest).head?,
      hangulSyllable? e f = none := by
    rintro e _ f ⟨⟩
    exact hangulSyllable?_eq_none (.inr (by omega)) e
  have apart' : ∀ e ∈ (Text.nfc [c, d]).getLast?, ∀ f ∈ rest.head?, hangulSyllable? e f = none := by
    rw [own]
    rintro e ⟨⟩ f _
    exact hangulSyllable?_of_low second f
  have behind := Text.nfc_append (a := [c, d]) begins apart'
  rw [Text.nfc_append letter apart]
  show _ ++ Text.nfc ([c, d] ++ rest) = _
  rw [behind, own]
  rfl

theorem nfd_append_pair {front rest : Text} {c d : Char} (first : c.toNat < 0x80)
    (second : d.toNat < 0x80) :
    (front ++ c :: d :: rest).nfd = front.nfd ++ c :: d :: rest.nfd := by
  have letter : isMark c = false := isMark_eq_false_of_lt (by omega)
  have letter' : isMark d = false := isMark_eq_false_of_lt (by omega)
  rw [Text.nfd_append (by rintro e ⟨⟩; exact letter),
    nfd_cons_of_final (decompose_of_low first) letter,
    nfd_cons_of_final (decompose_of_low second) letter']

/-- Without marks, letters of diphthongs are next to each other in a text exactly if they are so
    among its base letters. -/
theorem pair_infix_withoutMarks_iff {k l : Char} (hk : k ∈ diphthongLetters)
    (hl : l ∈ diphthongLetters) (t : Text) :
    [k, l] <:+: t.withoutMarks.lower ↔ [k, l] <:+: t.base.map lowerLetter := by
  have decomposed : t.withoutMarks.nfd = t.base := by
    rw [Text.withoutMarks, Text.nfd_nfc, nfd_base]
  have letters : ∀ d ∈ t.base, isMark d = false := fun d => Text.not_isMark_of_mem_base
  -- `İ` is the one character that is longer in lower case.
  have undotted : 'İ' ∉ t.withoutMarks := by
    intro dotted
    have dot : '\u0307' ∈ t.base := by
      rw [← decomposed]
      exact mem_nfd.2 ⟨_, dotted, by decide +kernel⟩
    exact absurd (letters _ dot) (by decide +kernel)
  have undotted' : 'İ' ∉ t.base := by
    intro dotted
    have final := decompose_eq_self_of_mem_nfd (List.mem_filter.1 dotted).1
    exact absurd final (by decide +kernel)
  rw [Text.lower, pair_infix_lowerFrom_iff hk hl [] undotted, pair_infix_map_iff,
    pair_infix_map_iff]
  constructor
  · rintro ⟨front, c, d, rest, whole, rfl, rfl⟩
    have first : c ≠ 'İ' := fun same => undotted (by simp [whole, same])
    have second : d ≠ 'İ' := fun same => undotted (by simp [whole, same])
    refine ⟨Text.nfd front, c, d, Text.nfd rest, ?_, rfl, rfl⟩
    rw [← decomposed, whole, nfd_append_pair (low_of_lowerLetter hk rfl first)
      (low_of_lowerLetter hl rfl second)]
  · rintro ⟨front, c, d, rest, whole, rfl, rfl⟩
    have first : c ≠ 'İ' := fun same => undotted' (by simp [whole, same])
    have second : d ≠ 'İ' := fun same => undotted' (by simp [whole, same])
    have begins : ∀ e ∈ rest.head?, isMark e = false :=
      fun e he => letters e (by simp [whole, List.mem_of_mem_head? he])
    refine ⟨Text.nfc front, c, d, Text.nfc rest, ?_, rfl, rfl⟩
    rw [Text.withoutMarks, whole, nfc_append_pair (low_of_lowerLetter hk rfl first)
      (low_of_lowerLetter hl rfl second) begins]

theorem hasDiphthong_iff {t : Text} :
    t.hasDiphthong = true ↔ ∃ k l, [k, l] ∈ diphthongs ∧ [k, l] <:+: t.base.map lowerLetter := by
  rw [Text.hasDiphthong, List.any_eq_true]
  constructor
  · rintro ⟨d, hd, occurs⟩
    obtain ⟨k, l, rfl⟩ := exists_pair_of_mem_diphthongs hd
    obtain ⟨hk, hl⟩ := mem_diphthongLetters hd
    rw [occursIn_iff, pair_infix_withoutMarks_iff hk hl] at occurs
    exact ⟨k, l, hd, occurs⟩
  · rintro ⟨k, l, hd, occurs⟩
    obtain ⟨hk, hl⟩ := mem_diphthongLetters hd
    refine ⟨_, hd, occursIn_iff.2 ?_⟩
    rwa [pair_infix_withoutMarks_iff hk hl]

/-- A text that is a diphthong consists of two plain letters. -/
theorem exists_pair_of_isDiphthong {t : Text} (h : isDiphthong t = true) :
    ∃ c d, t = [c, d] ∧ t.base = [c, d] ∧ [lowerLetter c, lowerLetter d] ∈ diphthongs := by
  have low := low_of_isDiphthong h
  have sigma : 'Σ' ∉ t := fun member => absurd (low _ member) (by decide)
  have dotted : 'İ' ∉ t := fun member => absurd (low _ member) (by decide)
  have base : t.base = t := by
    rw [Text.base, (forms_of_low low).1, List.filter_eq_self]
    intro c hc
    have small := low c hc
    rw [isMark_eq_false_of_lt (by omega), Bool.not_false]
  rw [isDiphthong, List.contains_iff_mem, Text.lower, lowerFrom_eq_map [] t sigma dotted] at h
  obtain ⟨k, l, pair⟩ := exists_pair_of_mem_diphthongs h
  obtain ⟨c, rest, rfl, _, tail⟩ := List.map_eq_cons_iff.1 pair
  obtain ⟨d, rest, rfl, _, tail⟩ := List.map_eq_cons_iff.1 tail
  obtain rfl := List.map_eq_nil_iff.1 tail
  exact ⟨c, d, rfl, base, h⟩

/-! ## Long vowels -/

/-- Whether a phoneme is a vowel with a mark of length. -/
def Phoneme.isLongVowel (p : Phoneme) : Bool :=
  VowelSystem.isVowel {} p.key && p.marks.any longMarks.contains

theorem hasLongVowel_eq (t : Text) :
    t.hasLongVowel = (phonemes DigraphTable.letters t).any Phoneme.isLongVowel := rfl

theorem any_phonemesFrom_append (f : Phoneme → Bool) (moved : ∀ n p, f (Phoneme.moved n p) = f p)
    (table : DigraphTable) (start : Nat) (gs hs : List Grapheme) :
    (phonemesFrom table start (gs ++ hs)).any f =
      ((phonemesFrom table start gs).any f || (phonemesFrom table 0 hs).any f) := by
  have place : ∀ start, (phonemesFrom table start hs).any f = (phonemesFrom table 0 hs).any f := by
    intro start
    rw [← Nat.add_zero start, phonemesFrom_add, List.any_map]
    congr 1
    funext p
    exact moved start p
  induction gs generalizing start with
  | nil => simp [phonemesFrom, place start]
  | cons g gs ih => rw [List.cons_append, phonemesFrom, phonemesFrom, List.any_cons, List.any_cons,
      ih, Bool.or_assoc]

/-- Letter by letter, a text is read piece by piece. -/
theorem graphemes_letters_append {a b : Text} (letter : ∀ c ∈ b.head?, isMark c = false) :
    graphemes DigraphTable.letters isMark (a ++ b) =
      graphemes DigraphTable.letters isMark a ++ graphemes DigraphTable.letters isMark b := by
  have none : ∀ d, d ∉ DigraphTable.letters.readable := fun d => List.not_mem_nil
  exact graphemes_append (fun d hd => absurd hd (none d)) letter
    fun g _ d hd => absurd hd (none d)

theorem hasLongVowel_append {a b : Text} (letter : ∀ c ∈ b.head?, isMark c = false) :
    (a ++ b).hasLongVowel = (a.hasLongVowel || b.hasLongVowel) := by
  rw [hasLongVowel_eq, phonemes, graphemes_letters_append letter,
    any_phonemesFrom_append _ fun n p => rfl]
  rfl

/-- A text with a long vowel has a vowel among its letters. -/
theorem exists_vowel_of_hasLongVowel {t : Text} (h : t.hasLongVowel = true) :
    ∃ b ∈ t.base, VowelSystem.isLetter {} b = true := by
  rw [hasLongVowel_eq, List.any_eq_true] at h
  obtain ⟨p, hp, long⟩ := h
  have inText : p ∈ phonemes (DigraphTable.forSyllables true) t := hp
  obtain ⟨b, single, vowel⟩ := exists_base_of_isVowel_key inText (Bool.and_eq_true_iff.1 long).1
  have member : b ∈ p.text.base := by simp [single]
  obtain ⟨decomposed, letter⟩ := List.mem_filter.1 member
  obtain ⟨c, hc, part⟩ := mem_nfd.1 decomposed
  refine ⟨b, List.mem_filter.2 ⟨mem_nfd.2 ⟨c, ?_, part⟩, letter⟩, vowel⟩
  rw [← flatMap_text_phonemes DigraphTable.letters t]
  exact List.mem_flatMap.2 ⟨p, hp, hc⟩

/-- A letter with marks is a long vowel or not as it would be in a longer text. -/
theorem hasLongVowel_letter_marks {c : Char} {marks : Text} (marked : ∀ m ∈ marks, isMark m = true) :
    Text.hasLongVowel (c :: marks) =
      (VowelSystem.isVowel {} (Text.base (c :: marks)).lower &&
        (Text.marks (c :: marks)).any longMarks.contains) := by
  have whole : graphemes DigraphTable.letters isMark (c :: marks) = [⟨[c], false, marks⟩] := by
    have parts : c :: marks = [c] ++ (marks ++ []) := by
      rw [List.append_nil, List.singleton_append]
    have length : [c].length = DigraphTable.letters.extent (c :: marks) + 1 := rfl
    rw [graphemes_eq_cons parts length marked (by simp), graphemes_nil]
    rfl
  rw [Text.hasLongVowel, phonemes, whole]
  simp [phonemesFrom, Grapheme.text, Grapheme.key, DigraphTable.standIn?, DigraphTable.letters]

/-! ## The last letter -/

/-- The letter that a text ends in, in lower case and without the marks that are composed with it.
    There is none at the end of a text that ends in a mark of its own. -/
def Text.lastLetter? (t : Text) : Option Char :=
  t.getLast?.bind fun c => (Text.base [c]).head?.map lowerLetter

/-- The first base letter of a text, in lower case. -/
def Text.firstLetter? (t : Text) : Option Char := t.base.head?.map lowerLetter

theorem isConsonant_withoutMarks (t : Text) :
    isConsonant t.withoutMarks = t.base.head?.any fun b => !VowelSystem.lettered.isLetter b := by
  rw [isConsonant, isVowel_withoutMarks]
  cases base : t.base with
  | nil => simp [Text.withoutMarks, base]
  | cons b rest =>
    have filled : t.withoutMarks ≠ [] := Text.nfc_ne_nil (by simp [base])
    simp [filled]

/-- A text without white space ends in a consonant exactly if its last letter is one. -/
theorem endsInConsonant_eq {t : Text} (filled : ∀ c ∈ t, isBlank c = false) :
    t.endsInConsonant = t.lastLetter?.any fun k => !VowelSystem.lettered.letters.contains k := by
  rcases List.eq_nil_or_concat t with rfl | ⟨front, c, rfl⟩
  · rfl
  · rw [List.concat_eq_append] at filled ⊢
    rw [endsInConsonant_concat (filled c (by simp)), isConsonant_withoutMarks, Text.lastLetter?,
      List.getLast?_concat, Option.bind_some, Option.any_map]
    rfl

end SoundLaw
