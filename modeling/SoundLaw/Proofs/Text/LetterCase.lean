/-
  SoundLaw.Proofs.Text.LetterCase

  What the case tables say about letters without diacritics. The lower case of such a letter is one
  letter of the same kind, and is its own lower case (`exists_lower_eq_keyLetter`); and an upper-case
  letter decomposes to one that is its own upper case (`upperLetter_of_isUpper_decompose`).

  The tables are checked run by run and not code point by code point. Two runs are told apart by
  their ends, or by parity where both go in steps of two.
-/
import SoundLaw.Proofs.Text.MarkedLetter
import SoundLaw.Text.Case

namespace SoundLaw

/-! ## Progressions of code points -/

/-- Code points in progression: the first one, the last one, and the step between them. -/
abbrev CodeSteps := Nat × Nat × Nat

namespace CodeSteps

/-- A code point belongs to a progression. -/
def Holds (p : CodeSteps) (n : Nat) : Prop := p.1 ≤ n ∧ n ≤ p.2.1 ∧ (n - p.1) % p.2.2 = 0

/-- Whether a code point belongs to a progression. -/
def holds (p : CodeSteps) (n : Nat) : Bool :=
  Nat.ble p.1 n && Nat.ble n p.2.1 && Nat.beq ((n - p.1) % p.2.2) 0

theorem holds_iff {p : CodeSteps} {n : Nat} : p.holds n = true ↔ p.Holds n := by
  simp only [holds, Holds, Bool.and_eq_true, Nat.ble_eq, Nat.beq_eq, and_assoc]

/-- Whether a progression has a code point on a page, as far as its ends show. -/
def meets (p : CodeSteps) (page : Nat) : Bool :=
  Nat.ble (256 * page) p.2.1 && Nat.blt p.1 (256 * (page + 1))

theorem Holds.meets {p : CodeSteps} {page n : Nat} (h : p.Holds (256 * page + n))
    (small : n < 256) : p.meets page = true := by
  have low := h.1
  have high := h.2.1
  rw [CodeSteps.meets, Bool.and_eq_true, Nat.ble_eq, Nat.blt_eq]
  omega

/-- Whether a progression keeps to one parity. -/
def alternates (p : CodeSteps) : Bool := Nat.beq p.2.2 2 || Nat.beq p.1 p.2.1

/-- Whether two progressions keep to different parities. -/
def interlock (p q : CodeSteps) : Bool :=
  p.alternates && q.alternates && Nat.beq ((p.1 + q.1) % 2) 1

theorem Holds.parity {p : CodeSteps} {n : Nat} (h : p.Holds n) (alternates : p.alternates = true) :
    n % 2 = p.1 % 2 := by
  obtain ⟨first, last, step⟩ := h
  rw [CodeSteps.alternates, Bool.or_eq_true, Nat.beq_eq, Nat.beq_eq] at alternates
  rcases alternates with two | single
  · rw [two] at step
    omega
  · have same : n = p.1 := by omega
    rw [same]

theorem Holds.not_of_interlock {p q : CodeSteps} {n : Nat} (h : p.Holds n)
    (interlocks : p.interlock q = true) : ¬q.Holds n := by
  intro both
  rw [interlock, Bool.and_eq_true, Bool.and_eq_true, Nat.beq_eq] at interlocks
  obtain ⟨⟨left, right⟩, parities⟩ := interlocks
  have := h.parity left
  have := both.parity right
  omega

end CodeSteps

/-- The code points that a run maps. -/
def CodeRun.domain (r : CodeRun) : CodeSteps := (r.first, r.last, r.step)

/-- The code points that a run maps them to. -/
def CodeRun.range (r : CodeRun) : CodeSteps := (r.image, r.image + (r.last - r.first), r.step)

theorem CodeRun.covers_iff {r : CodeRun} {n : Nat} : r.covers n = true ↔ r.domain.Holds n := by
  simp only [CodeRun.covers, Bool.and_eq_true, decide_eq_true_eq, beq_iff_eq, and_assoc,
    CodeSteps.Holds, CodeRun.domain]

theorem CodeRun.holds_range {r : CodeRun} {n : Nat} (h : r.domain.Holds n) :
    r.range.Holds (r.image + (n - r.first)) := by
  obtain ⟨_, last, step⟩ := h
  refine ⟨Nat.le_add_right _ _, Nat.add_le_add_left (Nat.sub_le_sub_right last _) _, ?_⟩
  rw [CodeRun.range, Nat.add_sub_cancel_left]
  exact step

/-- Whether ascending runs can be seen to leave a progression as it is. -/
noncomputable def CodeRun.spare (rs : List CodeRun) (p : CodeSteps) : Bool :=
  List.rec true (fun r _ later =>
    bif Nat.blt p.2.1 r.first then true
    else bif Nat.blt r.last p.1 || p.interlock r.domain then later else false) rs

theorem CodeRun.apply_of_spare {rs : List CodeRun} {p : CodeSteps} {c : Char}
    (spares : CodeRun.spare rs p = true) (h : p.Holds c.toNat) : CodeRun.apply rs c = c := by
  induction rs with
  | nil => rfl
  | cons r rs ih =>
    rw [CodeRun.apply]
    by_cases before : c.toNat < r.first
    · rw [if_pos before]
    · have notBefore : Nat.blt p.2.1 r.first = false := by
        rw [← Bool.not_eq_true, Nat.blt_eq]
        have := h.2.1
        omega
      have checked : (bif Nat.blt r.last p.1 || p.interlock r.domain then CodeRun.spare rs p
          else false) = true := by
        have spares : (bif Nat.blt p.2.1 r.first then true
          else bif Nat.blt r.last p.1 || p.interlock r.domain then CodeRun.spare rs p
          else false) = true := spares
        rwa [notBefore, cond_false] at spares
      rw [Bool.cond_false_right, Bool.and_eq_true, Bool.or_eq_true, Nat.blt_eq] at checked
      have outside : ¬r.covers c.toNat = true := by
        rw [CodeRun.covers_iff]
        rcases checked.1 with below | interlocks
        · intro inside
          have := h.1
          have : c.toNat ≤ r.last := inside.2.1
          omega
        · exact h.not_of_interlock interlocks
      rw [if_neg before, if_neg outside, ih checked.2]

/-- Whether ascending ranges can be seen to contain nothing of a progression. -/
noncomputable def CodeRanges.avoid (rs : CodeRanges) (p : CodeSteps) : Bool :=
  List.rec true (fun r _ later => bif Nat.blt r.2 p.1 then later else Nat.blt p.2.1 r.1) rs

theorem CodeRanges.contains_of_avoid {rs : CodeRanges} {p : CodeSteps} {c : Char}
    (avoids : CodeRanges.avoid rs p = true) (h : p.Holds c.toNat) :
    CodeRanges.contains rs c = false := by
  have low := h.1
  have high := h.2.1
  induction rs with
  | nil => rfl
  | cons r rs ih =>
    rw [CodeRanges.contains, Bool.and_eq_false_iff, Bool.or_eq_false_iff, decide_eq_false_iff_not,
      decide_eq_false_iff_not]
    have avoids : (bif Nat.blt r.2 p.1 then CodeRanges.avoid rs p else Nat.blt p.2.1 r.1) = true :=
      avoids
    cases below : Nat.blt r.2 p.1 with
    | true =>
      rw [below, cond_true] at avoids
      rw [Nat.blt_eq] at below
      exact Or.inr ⟨by omega, ih avoids⟩
    | false =>
      rw [below, cond_false, Nat.blt_eq] at avoids
      exact Or.inl (by omega)

/-- Whether ascending rows can be seen to hold nothing for a progression. -/
noncomputable def CodeMap.avoid {α : Type} (rows : CodeMap α) (p : CodeSteps) : Bool :=
  List.rec true (fun row _ later =>
    bif Nat.blt p.2.1 row.1 then true
    else bif Nat.blt row.1 p.1 || p.interlock (row.1, row.1, 1) then later else false) rows

theorem CodeMap.find?_of_avoid {α : Type} {rows : CodeMap α} {p : CodeSteps} {n : Nat}
    (avoids : CodeMap.avoid rows p = true) (h : p.Holds n) : CodeMap.find? rows n = none := by
  induction rows with
  | nil => rfl
  | cons row rows ih =>
    obtain ⟨m, x⟩ := row
    rw [CodeMap.find?]
    by_cases before : n < m
    · rw [if_pos before]
    · have notBefore : Nat.blt p.2.1 m = false := by
        rw [← Bool.not_eq_true, Nat.blt_eq]
        have := h.2.1
        omega
      have checked : (bif Nat.blt p.2.1 m then true
          else bif Nat.blt m p.1 || p.interlock (m, m, 1) then CodeMap.avoid rows p
          else false) = true := avoids
      rw [notBefore, cond_false, Bool.cond_false_right, Bool.and_eq_true, Bool.or_eq_true,
        Nat.blt_eq] at checked
      have other : n ≠ m := by
        rintro rfl
        rcases checked.1 with below | interlocks
        · have := h.1
          omega
        · exact h.not_of_interlock interlocks ⟨Nat.le_refl n, Nat.le_refl n, Nat.mod_one _⟩
      rw [if_neg before, if_neg other, ih checked.2]

/-! ## Decompositions -/

/-- No row of the tables is about a character that does not decompose. -/
theorem probe_eq_none_of_final {c : Char} (final : decompose c = [c]) :
    canonicalMappings.probe c.toNat = none := by
  rw [← CodePages.find?_eq_probe]
  cases found : CodePages.find? canonicalMappings c with
  | none => rfl
  | some codes =>
    cases hangul : hangulLetters? c with
    | some letters =>
      -- A Hangul syllable decomposes to other letters.
      have whole : decompose c = letters := by simp [decompose, hangul]
      have page := toNat_of_mem_hangulLetters? hangul (d := c) (by rw [← whole, final]; simp)
      have noPage : CodeMap.find? canonicalMappings 0x11 = none := rfl
      simp [CodePages.find?, page, noPage] at found
    | none =>
      obtain ⟨page, inPages, row, inPage, _, rfl⟩ := CodePages.exists_row_of_find? found
      have whole : decompose c = row.2.map Char.ofNat := by
        simp [decompose, hangul, canonicalMapping?, found]
      -- What a row gives is final, and so no row is about it.
      obtain ⟨n, single, same⟩ := List.map_eq_singleton_iff.1 (whole.symm.trans final)
      have listed := (isFinal_of_mem_row inPages inPage).2 n (by simp [single])
      rw [isFinal, Bool.and_eq_true, Option.isNone_iff_eq_none] at listed
      rw [CodePages.find?_eq_probe, ← same, (toNat_ofNat_of_isListable listed.1).1, listed.2] at found
      exact absurd found (by simp)

/-- A page has no more than 256 rows. -/
theorem lt_of_mem_page {page : Nat × CodeMap (List Nat)} (inPages : page ∈ canonicalMappings)
    {row : Nat × List Nat} (inPage : row ∈ page.2) : row.1 < 256 := by
  have checked := List.all_eq_true.1 isMark_mappings page inPages
  rw [Bool.and_eq_true] at checked
  simpa only [Nat.blt_eq] using List.all_eq_true.1 checked.1 row inPage

theorem hangulLetters?_of_outside {c : Char} (h : c.toNat < 0xAC00 ∨ 0xD7A3 < c.toNat) :
    hangulLetters? c = none := by
  rw [hangulLetters?, if_neg]
  simp only [Bool.and_eq_true, decide_eq_true_eq]
  omega

/-- No character below `0x80` decomposes. -/
theorem decompose_of_low {c : Char} (low : c.toNat < 0x80) : decompose c = [c] := by
  have rows : (canonicalMappings.all fun page => page.2.all fun row =>
      Nat.ble 0x80 (256 * page.1 + row.1)) = true := by decide +kernel
  rcases decompose_cases c with hangul | ⟨page, inPages, row, inPage, code, _⟩ | same
  · rw [hangulLetters?_of_outside (Or.inl (by omega))] at hangul
    exact absurd hangul (by simp)
  · have listed := List.all_eq_true.1 (List.all_eq_true.1 rows page inPages) row inPage
    rw [Nat.ble_eq] at listed
    omega
  · exact same

/-! ## Lower case -/

/-- Lower-case letters are their own lower case; neither they nor what has a lower case are marks;
    and they are characters, and no Hangul syllables. -/
theorem spare_lowerRuns :
    (lowerRuns.all fun r =>
      (CodeRun.spare lowerRuns r.range && basicMarks.avoid r.range &&
        supplementaryMarks.avoid r.range) &&
      (basicMarks.avoid r.domain && supplementaryMarks.avoid r.domain) &&
      (Nat.blt r.range.2.1 0xAC00 || Nat.blt 0xDFFF r.range.1 && Nat.blt r.range.2.1 0x110000)) =
        true := by
  decide +kernel

/-- A row of the tables about a lower-case letter comes with a row about what has this lower case. -/
theorem isSome_probe_lowerRuns :
    (canonicalMappings.all fun page => lowerRuns.all fun r =>
      !r.range.meets page.1 || page.2.all fun row =>
        !r.range.holds (256 * page.1 + row.1) ||
          (canonicalMappings.probe (r.first + (256 * page.1 + row.1 - r.image))).isSome) = true := by
  decide +kernel

/-- A letter is its own lower case, or a run maps it to that. -/
theorem lowerLetter_cases (c : Char) :
    lowerLetter c = c ∨ ∃ r ∈ lowerRuns, r.range.Holds (lowerLetter c).toNat ∧
      c.toNat = r.first + ((lowerLetter c).toNat - r.image) ∧
      hangulLetters? (lowerLetter c) = none := by
  rcases CodeRun.apply_eq_or lowerRuns c with same | ⟨r, member, covers, mapped⟩
  · exact Or.inl same
  · have domain := CodeRun.covers_iff.1 covers
    have range := CodeRun.holds_range domain
    have checked := List.all_eq_true.1 spare_lowerRuns r member
    simp only [Bool.and_eq_true, Bool.or_eq_true, Nat.blt_eq] at checked
    have first : r.first ≤ c.toNat := domain.1
    have low := range.1
    have high := range.2.1
    have valid : (r.image + (c.toNat - r.first)).isValidChar := by
      rcases checked.2 with basic | beyond
      · exact Or.inl (by omega)
      · exact Or.inr ⟨by omega, by omega⟩
    have code : (lowerLetter c).toNat = r.image + (c.toNat - r.first) := by
      rw [lowerLetter, mapped, toNat_ofNat_of_isValidChar valid]
    refine Or.inr ⟨r, member, code ▸ range, by omega, hangulLetters?_of_outside ?_⟩
    omega

theorem lowerLetter_lowerLetter (c : Char) : lowerLetter (lowerLetter c) = lowerLetter c := by
  rcases lowerLetter_cases c with same | ⟨r, member, range, _⟩
  · rw [same, same]
  · have checked := List.all_eq_true.1 spare_lowerRuns r member
    simp only [Bool.and_eq_true] at checked
    exact CodeRun.apply_of_spare checked.1.1.1.1 range

theorem sameLetter_lowerLetter (c k : Char) : sameLetter (lowerLetter c) k = sameLetter c k := by
  rw [sameLetter, sameLetter, lowerLetter_lowerLetter]

theorem sameLetter_of_lowerLetter {c k : Char} (small : lowerLetter c = k) :
    sameLetter c k = true := by
  rw [← small]
  simp [sameLetter, lowerLetter_lowerLetter]

theorem isMark_lowerLetter {c : Char} (letter : isMark c = false) :
    isMark (lowerLetter c) = false := by
  rcases lowerLetter_cases c with same | ⟨r, member, range, _⟩
  · rwa [same]
  · have checked := List.all_eq_true.1 spare_lowerRuns r member
    simp only [Bool.and_eq_true] at checked
    rw [isMark, CodeRanges.contains_of_avoid checked.1.1.1.2 range,
      CodeRanges.contains_of_avoid checked.1.1.2 range, Bool.or_false]

theorem lowerLetter_of_isMark {m : Char} (mark : isMark m = true) : lowerLetter m = m := by
  rcases CodeRun.apply_eq_or lowerRuns m with same | ⟨r, member, covers, _⟩
  · exact same
  · have checked := List.all_eq_true.1 spare_lowerRuns r member
    simp only [Bool.and_eq_true] at checked
    have domain := CodeRun.covers_iff.1 covers
    rw [isMark, CodeRanges.contains_of_avoid checked.1.2.1 domain,
      CodeRanges.contains_of_avoid checked.1.2.2 domain] at mark
    exact absurd mark (by simp)

theorem decompose_lowerLetter {c : Char} (final : decompose c = [c]) :
    decompose (lowerLetter c) = [lowerLetter c] := by
  rcases lowerLetter_cases c with same | ⟨r, member, range, code, noHangul⟩
  · rwa [same]
  · rcases decompose_cases (lowerLetter c) with hangul | ⟨page, inPages, row, inPage, here, _⟩ | own
    · rw [noHangul] at hangul
      exact absurd hangul (by simp)
    · -- The row for the lower-case letter would come with one for `c`.
      rw [← here] at range code
      have checked := List.all_eq_true.1 (List.all_eq_true.1 isSome_probe_lowerRuns page inPages) r
        member
      rw [range.meets (lt_of_mem_page inPages inPage), Bool.not_true, Bool.false_or] at checked
      have checked := List.all_eq_true.1 checked row inPage
      rw [CodeSteps.holds_iff.2 range, Bool.not_true, Bool.false_or, ← code,
        probe_eq_none_of_final final] at checked
      exact absurd checked (by simp)
    · exact own

/-! ## Letters of keys -/

/-- A letter as the key of a phoneme has it: without a diacritic, and in lower case. -/
structure IsKeyLetter (k : Char) : Prop where
  letter : isMark k = false
  final : decompose k = [k]
  small : Text.lower [k] = [k]

/-- A letter that is its own lower case, by itself. -/
theorem lower_singleton_of_small {k : Char} (small : lowerLetter k = k) :
    Text.lower [k] = [k] := by
  have noSigma : k ≠ 'Σ' := by
    rintro rfl
    exact absurd small (by decide +kernel)
  have noDot : k ≠ 'İ' := by
    rintro rfl
    exact absurd small (by decide +kernel)
  rw [Text.lower, lowerFrom_eq_map [] [k] (by simpa using noSigma.symm) (by simpa using noDot.symm),
    List.map_singleton, small]

/-- A letter without a diacritic has such a letter as its lower case. -/
theorem exists_lower_eq_keyLetter {b : Char} (letter : isMark b = false)
    (final : decompose b = [b]) : ∃ k, Text.lower [b] = [k] ∧ IsKeyLetter k := by
  have noDot : b ≠ 'İ' := by
    rintro rfl
    exact absurd final (by decide +kernel)
  have isKey : IsKeyLetter (lowerLetter b) := ⟨isMark_lowerLetter letter,
    decompose_lowerLetter final, lower_singleton_of_small (lowerLetter_lowerLetter b)⟩
  by_cases sigma : b = 'Σ'
  · -- A sigma by itself does not end a word.
    refine ⟨lowerLetter b, ?_, isKey⟩
    rw [sigma]
    decide +kernel
  · refine ⟨lowerLetter b, ?_, isKey⟩
    rw [Text.lower, lowerFrom_eq_map [] [b] (by simpa using Ne.symm sigma)
      (by simpa using noDot.symm), List.map_singleton]

/-! ## Upper case -/

/-- Upper-case letters are their own upper case and are no marks, and no Hangul syllables. -/
theorem spare_upperLetters :
    (upperLetters.all fun p => (CodeRun.spare upperRuns p && CodeMap.avoid upperExpansions p) &&
      (basicMarks.avoid p && supplementaryMarks.avoid p) &&
      (Nat.blt p.2.1 0xAC00 || Nat.blt 0xD7A3 p.1)) = true := by
  decide +kernel

/-- What an upper-case letter decomposes to begins with an upper-case letter. -/
theorem isUpper_mappings :
    (canonicalMappings.all fun page => upperLetters.all fun p =>
      !CodeSteps.meets p page.1 || page.2.all fun row =>
        !CodeSteps.holds p (256 * page.1 + row.1) ||
          row.2.head?.all fun n => upperLetters.any fun q => CodeSteps.holds q n) = true := by
  decide +kernel

theorem isUpper_iff {c : Char} : isUpper c = true ↔ ∃ p ∈ upperLetters, CodeSteps.Holds p c.toNat := by
  simp only [isUpper, List.any_eq_true, Bool.and_eq_true, decide_eq_true_eq, beq_iff_eq, and_assoc,
    CodeSteps.Holds]

theorem upperLetter_of_isUpper {c : Char} (upper : isUpper c = true) : upperLetter c = [c] := by
  obtain ⟨p, member, holds⟩ := isUpper_iff.1 upper
  have checked := List.all_eq_true.1 spare_upperLetters p member
  simp only [Bool.and_eq_true] at checked
  rw [upperLetter, CodeMap.find?_of_avoid checked.1.1.2 holds]
  exact congrArg (fun d => [d]) (CodeRun.apply_of_spare checked.1.1.1 holds)

theorem isMark_of_isUpper {c : Char} (upper : isUpper c = true) : isMark c = false := by
  obtain ⟨p, member, holds⟩ := isUpper_iff.1 upper
  have checked := List.all_eq_true.1 spare_upperLetters p member
  simp only [Bool.and_eq_true] at checked
  rw [isMark, CodeRanges.contains_of_avoid checked.1.2.1 holds,
    CodeRanges.contains_of_avoid checked.1.2.2 holds, Bool.or_false]

/-- The letter that an upper-case letter has below its diacritics is its own upper case. -/
theorem upperLetter_of_isUpper_decompose {c h : Char} {rest : Text} (upper : isUpper c = true)
    (whole : decompose c = h :: rest) : upperLetter h = [h] := by
  obtain ⟨p, member, holds⟩ := isUpper_iff.1 upper
  rcases decompose_cases c with hangul | ⟨page, inPages, row, inPage, here, mapped⟩ | own
  · have checked := List.all_eq_true.1 spare_upperLetters p member
    simp only [Bool.and_eq_true, Bool.or_eq_true, Nat.blt_eq] at checked
    have low := holds.1
    have high := holds.2.1
    rw [hangulLetters?_of_outside (by omega)] at hangul
    exact absurd hangul (by simp)
  · have checked := List.all_eq_true.1 (List.all_eq_true.1 isUpper_mappings page inPages) p member
    rw [← here] at holds
    rw [holds.meets (lt_of_mem_page inPages inPage), Bool.not_true, Bool.false_or] at checked
    have checked := List.all_eq_true.1 checked row inPage
    rw [CodeSteps.holds_iff.2 holds, Bool.not_true, Bool.false_or] at checked
    -- The row of a capital begins with the code point of a capital.
    obtain ⟨n, codes, listed, rfl, rfl⟩ := List.map_eq_cons_iff.1 (mapped.symm.trans whole)
    have listable := (isFinal_of_mem_row inPages inPage).2 n (by simp [listed])
    rw [isFinal, Bool.and_eq_true] at listable
    rw [listed, List.head?_cons, Option.all_some, List.any_eq_true] at checked
    obtain ⟨q, inLetters, holds⟩ := checked
    refine upperLetter_of_isUpper (isUpper_iff.2 ⟨q, inLetters, ?_⟩)
    rw [(toNat_ofNat_of_isListable listable.1).1]
    exact CodeSteps.holds_iff.1 holds
  · rw [own, List.cons.injEq] at whole
    rw [← whole.1]
    exact upperLetter_of_isUpper upper

-- Below the circumflex and the acute of `Ấ` there is an `A`.
example : isUpper 'Ấ' = true ∧ (decompose 'Ấ').head? = some 'A' ∧ upperLetter 'A' = ['A'] := by
  decide +kernel

end SoundLaw
