/-
  SoundLaw.Proofs.Text.LetterTables

  What the tables of the canonical forms say about letters, by which we mean all characters but the
  combining marks. A letter is a starter, it decomposes to a letter with something behind it, and it
  joins the character before it in no way but one: by a Hangul syllable. Each table is gone through
  once, by code points.
-/
import SoundLaw.Proofs.Text.CanonicalTables

namespace SoundLaw

/-! ## Look-up by code point -/

/-- Whether one of the ranges, which are in ascending order, holds all of a range. -/
noncomputable def CodeRanges.covers (rs : CodeRanges) (s : Nat × Nat) : Bool :=
  List.rec false (fun r _ later => Nat.ble r.1 s.1 && (Nat.ble s.2 r.2 || later)) rs

theorem CodeRanges.covers_cons (r : Nat × Nat) (rs : CodeRanges) (s : Nat × Nat) :
    CodeRanges.covers (r :: rs) s =
      (Nat.ble r.1 s.1 && (Nat.ble s.2 r.2 || CodeRanges.covers rs s)) := rfl

theorem CodeRanges.contains_eq_covers (rs : CodeRanges) (c : Char) :
    CodeRanges.contains rs c = CodeRanges.covers rs (c.toNat, c.toNat) := by
  induction rs with
  | nil => rfl
  | cons r rs ih =>
    rw [CodeRanges.contains, CodeRanges.covers_cons, ih, Bool.eq_iff_iff]
    simp only [Bool.and_eq_true, Bool.or_eq_true, decide_eq_true_eq, Nat.ble_eq]

theorem CodeRanges.exists_of_covers {rs : CodeRanges} {s : Nat × Nat}
    (h : CodeRanges.covers rs s = true) : ∃ r ∈ rs, r.1 ≤ s.1 ∧ s.2 ≤ r.2 := by
  induction rs with
  | nil => exact absurd h Bool.false_ne_true
  | cons r rs ih =>
    rw [CodeRanges.covers_cons, Bool.and_eq_true, Bool.or_eq_true, Nat.ble_eq, Nat.ble_eq] at h
    rcases h.2 with here | later
    · exact ⟨r, List.mem_cons_self, h.1, here⟩
    · obtain ⟨t, member, bounds⟩ := ih later
      exact ⟨t, List.mem_cons_of_mem r member, bounds⟩

/-- Whether the marks hold all of a range. -/
noncomputable def marksCover (s : Nat × Nat) : Bool :=
  basicMarks.covers s || supplementaryMarks.covers s

theorem isMark_eq_marksCover (c : Char) : isMark c = marksCover (c.toNat, c.toNat) := by
  rw [isMark, marksCover, CodeRanges.contains_eq_covers, CodeRanges.contains_eq_covers]

theorem isMark_of_marksCover {s : Nat × Nat} {c : Char} (covers : marksCover s = true)
    (first : s.1 ≤ c.toNat) (last : c.toNat ≤ s.2) : isMark c = true := by
  have range : ∃ r ∈ basicMarks ++ supplementaryMarks, r.1 ≤ s.1 ∧ s.2 ≤ r.2 := by
    rcases Bool.or_eq_true_iff.1 covers with basic | supplementary
    · obtain ⟨r, member, bounds⟩ := CodeRanges.exists_of_covers basic
      exact ⟨r, List.mem_append_left _ member, bounds⟩
    · obtain ⟨r, member, bounds⟩ := CodeRanges.exists_of_covers supplementary
      exact ⟨r, List.mem_append_right _ member, bounds⟩
  obtain ⟨r, member, before, after⟩ := range
  exact isMark_iff.2 ⟨r, member, Nat.le_trans before first, Nat.le_trans last after⟩

/-- Everything with a class is a mark, and so is everything that joins the character before it,
    Hangul letters apart. -/
theorem marksCover_classes_and_composites :
    ((marksAbove ++ otherClasses.flatMap (·.2)).all marksCover) = true ∧
      (composites.all fun entry => marksCover (entry.1, entry.1)) = true := by
  decide +kernel

/-! ## Classes -/

theorem exists_range_of_combiningClass {c : Char} (h : combiningClass c ≠ 0) :
    ∃ r ∈ marksAbove ++ otherClasses.flatMap (·.2), r.1 ≤ c.toNat ∧ c.toNat ≤ r.2 := by
  rw [combiningClass] at h
  split at h
  · exact absurd rfl h
  · split at h
    · next above =>
      obtain ⟨r, member, bounds⟩ := CodeRanges.exists_of_contains above
      exact ⟨r, List.mem_append_left _ member, bounds⟩
    · cases found : otherClasses.find? fun entry => CodeRanges.contains entry.2 c with
      | none => simp [found] at h
      | some entry =>
        have contains : CodeRanges.contains entry.2 c = true := by
          simpa using List.find?_some found
        obtain ⟨r, member, bounds⟩ := CodeRanges.exists_of_contains contains
        refine ⟨r, List.mem_append_right _ (List.mem_flatMap.2 ⟨entry, ?_, member⟩), bounds⟩
        exact List.mem_of_find?_eq_some found

/-- Letters are starters. -/
theorem combiningClass_of_not_isMark {c : Char} (letter : isMark c = false) :
    combiningClass c = 0 := by
  refine Decidable.byContradiction fun classed => ?_
  obtain ⟨r, listed, first, last⟩ := exists_range_of_combiningClass classed
  have covers := List.all_eq_true.1 marksCover_classes_and_composites.1 r listed
  rw [isMark_of_marksCover covers first last] at letter
  exact absurd letter (by decide)

/-! ## Composites -/

/-- Hangul syllables apart, nothing but marks joins the character before it. -/
theorem isMark_of_primaryComposite? {first second joined : Char}
    (h : primaryComposite? first second = some joined) : isMark second = true := by
  obtain ⟨row, found, _⟩ := Option.bind_eq_some_iff.1 h
  rw [isMark_eq_marksCover]
  exact List.all_eq_true.1 marksCover_classes_and_composites.2 _ (CodeMap.mem_of_find? found)

theorem composite?_of_not_isMark {second : Char} (letter : isMark second = false) (first : Char) :
    composite? first second = hangulSyllable? first second := by
  rw [composite?]
  cases joins : primaryComposite? first second with
  | none => exact Option.or_none
  | some joined =>
    rw [isMark_of_primaryComposite? joins] at letter
    exact absurd letter (by simp)

/-! ## Decompositions

Most rows of the tables begin with ideographs, which are told from marks by their blocks alone. -/

/-- Whether a code point belongs to a letter that is no Hangul letter. -/
noncomputable def isLetterCode (n : Nat) : Bool :=
  !Nat.beq (n / 256) 0x11 && (isUnmarkedCode n || !marksCover (n, n))

/-- Only marks decompose to a text that does not begin with a letter. -/
theorem isLetterCode_mappings :
    (canonicalMappings.all fun page => page.2.all fun row =>
      row.2.head?.all isLetterCode || marksCover (256 * page.1 + row.1, 256 * page.1 + row.1)) =
        true := by
  decide +kernel

theorem not_isMark_of_isLetterCode {c : Char} (h : isLetterCode c.toNat = true) :
    isMark c = false ∧ c.toNat / 256 ≠ 0x11 := by
  rw [isLetterCode, Bool.and_eq_true, Bool.not_eq_true', Bool.or_eq_true] at h
  refine ⟨?_, fun page => by rw [page] at h; exact absurd h.1 (by decide)⟩
  rcases h.2 with unmarked | letter
  · exact not_isMark_of_isUnmarkedCode unmarked
  · rwa [Bool.not_eq_true', ← isMark_eq_marksCover] at letter

theorem hangulSyllable?_eq_none {second : Char}
    (h : second.toNat / 256 ≠ 0x11 ∨ second.toNat < 0x1161) (first : Char) :
    hangulSyllable? first second = none := by
  unfold hangulSyllable?
  dsimp only
  rw [if_neg, if_neg]
  · simp only [Bool.and_eq_true, decide_eq_true_eq, beq_iff_eq]
    omega
  · simp only [Bool.and_eq_true, decide_eq_true_eq]
    omega

/-- The first letter of a Hangul syllable is a leading consonant. -/
theorem exists_hangulLetters?_eq_cons {c : Char} {letters : Text}
    (h : hangulLetters? c = some letters) :
    ∃ d rest, letters = d :: rest ∧ 0x1100 ≤ d.toNat ∧ d.toNat < 0x1113 := by
  unfold hangulLetters? at h
  split at h
  · next bounds =>
    simp only [Bool.and_eq_true, decide_eq_true_eq] at bounds
    have valid : (0x1100 + (c.toNat - 0xAC00) / (21 * 28)).isValidChar := Or.inl (by omega)
    have same := toNat_ofNat_of_isValidChar valid
    dsimp only at h
    split at h
    · exact ⟨_, _, (Option.some.inj h).symm, by omega, by omega⟩
    · exact ⟨_, _, (Option.some.inj h).symm, by omega, by omega⟩
  · exact absurd h (by simp)

/-- A letter decomposes to a letter, with something behind it or not. If that is another letter, it
    joins nothing before it. -/
theorem exists_decompose_eq_cons {c : Char} (letter : isMark c = false) :
    ∃ d rest, decompose c = d :: rest ∧ isMark d = false ∧
      (d = c ∨ ∀ e, hangulSyllable? e d = none) := by
  rcases decompose_cases c with hangul | ⟨page, inPages, row, inPage, code, mapped⟩ | same
  · obtain ⟨d, rest, whole, low, high⟩ := exists_hangulLetters?_eq_cons hangul
    refine ⟨d, rest, whole, not_isMark_of_isUnmarkedCode ?_,
      Or.inr (hangulSyllable?_eq_none (Or.inr (by omega)))⟩
    simp only [isUnmarkedCode, Bool.or_eq_true, Bool.and_eq_true, Nat.ble_eq, Nat.blt_eq]
    omega
  · have checked := List.all_eq_true.1
      (List.all_eq_true.1 isLetterCode_mappings page inPages) row inPage
    rw [code, ← isMark_eq_marksCover, letter, Bool.or_false] at checked
    obtain ⟨d, rest, whole⟩ := List.exists_cons_of_ne_nil (decompose_ne_nil c)
    refine ⟨d, rest, whole, ?_⟩
    rw [mapped] at whole
    obtain ⟨n, codes, listed, rfl, rfl⟩ := List.map_eq_cons_iff.1 whole
    have final := (isFinal_of_mem_row inPages inPage).2 n (by rw [listed]; exact List.mem_cons_self)
    rw [listed] at checked
    rw [isFinal, Bool.and_eq_true] at final
    have first : isLetterCode n = true := by simpa using checked
    rw [← (toNat_ofNat_of_isListable final.1).1] at first
    obtain ⟨plain, page⟩ := not_isMark_of_isLetterCode first
    exact ⟨plain, Or.inr (hangulSyllable?_eq_none (Or.inl page))⟩
  · exact ⟨c, [], same, letter, Or.inl rfl⟩

end SoundLaw
