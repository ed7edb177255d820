/-
  SoundLaw.Proofs.Text.CapitalMarks

  The capital of a character has the marks of the character (`filter_decompose_upperLetter`). Only the
  iota below a Greek vowel is lost: the capital has it as a letter. Without it, the capital of a letter
  with marks is that of the letter below them, with these marks (`flatMap_decompose_upperLetter`).
-/
import SoundLaw.Proofs.Text.LetterCase

namespace SoundLaw

/-- The iota below a letter, which has a capital of its own. -/
def subscriptIota : Char := '\u0345'

/-- Whether a character is a mark that capitals keep. -/
def isLastingMark (c : Char) : Bool := isMark c && c != subscriptIota

/-! ## Tables -/

/-- The code point that ascending runs map a code point to. -/
noncomputable def CodeRun.applyCode (rs : List CodeRun) (n : Nat) : Nat :=
  List.rec n (fun r _ later =>
    bif Nat.blt n r.first then n
    else bif r.domain.holds n then r.image + (n - r.first) else later) rs

theorem CodeRun.apply_eq_applyCode (rs : List CodeRun) (c : Char) :
    CodeRun.apply rs c = Char.ofNat (CodeRun.applyCode rs c.toNat) := by
  induction rs with
  | nil => exact (Char.ofNat_toNat c).symm
  | cons r rs ih =>
    have unfolded : CodeRun.applyCode (r :: rs) c.toNat = bif Nat.blt c.toNat r.first then c.toNat
        else bif r.domain.holds c.toNat then r.image + (c.toNat - r.first)
        else CodeRun.applyCode rs c.toNat := rfl
    have covers : r.domain.holds c.toNat = r.covers c.toNat := by
      rw [Bool.eq_iff_iff, CodeSteps.holds_iff, CodeRun.covers_iff]
    have before : Nat.blt c.toNat r.first = decide (c.toNat < r.first) := by
      rw [Bool.eq_iff_iff, Nat.blt_eq, decide_eq_true_iff]
    rw [CodeRun.apply, unfolded, ih, covers, before, cond_eq_ite, cond_eq_ite]
    simp only [decide_eq_true_eq]
    split
    · exact (Char.ofNat_toNat c).symm
    · split <;> rfl

/-- A code point stays, or a run maps it. -/
theorem CodeRun.applyCode_eq_or (rs : List CodeRun) (n : Nat) :
    CodeRun.applyCode rs n = n ∨
      ∃ r ∈ rs, r.domain.Holds n ∧ CodeRun.applyCode rs n = r.image + (n - r.first) := by
  induction rs with
  | nil => exact .inl rfl
  | cons r rs ih =>
    have unfolded : CodeRun.applyCode (r :: rs) n = bif Nat.blt n r.first then n
        else bif r.domain.holds n then r.image + (n - r.first) else CodeRun.applyCode rs n := rfl
    rw [unfolded, cond_eq_ite, cond_eq_ite]
    split
    · exact .inl rfl
    · split
      · next holds => exact .inr ⟨r, List.mem_cons_self, CodeSteps.holds_iff.1 holds, rfl⟩
      · rcases ih with same | ⟨q, member, covers, mapped⟩
        · exact .inl same
        · exact .inr ⟨q, List.mem_cons_of_mem r member, covers, mapped⟩

/-- The capitals of several characters have the marks of their letters. -/
theorem marks_upperExpansions :
    (upperExpansions.all fun row => isListable row.1 && row.2.all isListable &&
      ((row.2.flatMap decomposedCodes).map Char.ofNat).filter isLastingMark ==
        ((decomposedCodes row.1).map Char.ofNat).filter isLastingMark) = true := by
  decide +kernel

/-- A run of capitals takes letters with marks to letters with the same marks, and with the capital of
    the letter below them. -/
theorem decomposedCodes_upperRuns :
    (canonicalMappings.all fun page => upperRuns.all fun r =>
      !r.domain.meets page.1 || page.2.all fun row =>
        !r.domain.holds (256 * page.1 + row.1) ||
          decomposedCodes (r.image + (256 * page.1 + row.1 - r.first)) ==
            row.2.head?.toList.map (CodeRun.applyCode upperRuns) ++ row.2.tail) = true := by
  decide +kernel

/-- Without the iota below, several characters that are the capital of a letter with marks are those
    of the capital of the letter below them, with these marks. -/
theorem decomposedCodes_upperExpansions :
    (upperExpansions.all fun row => (decomposedCodes row.1).all isListable &&
      ((decomposedCodes row.1).tail.isEmpty ||
        (decomposedCodes row.1).tail.any (Nat.beq subscriptIota.toNat) ||
          row.2.flatMap decomposedCodes ==
            (decomposedCodes row.1).head?.toList.map (CodeRun.applyCode upperRuns) ++
              (decomposedCodes row.1).tail)) = true := by
  decide +kernel

/-- A letter below marks has a single capital; and where it has one, the letter with the marks has
    one too. -/
theorem capitals_mappings :
    (canonicalMappings.all fun page => page.2.all fun row => row.2.tail.isEmpty ||
      row.2.head?.all fun n => (CodeMap.probe upperExpansions n).isNone &&
        (Nat.beq (CodeRun.applyCode upperRuns n) n ||
          (CodeMap.probe upperExpansions (256 * page.1 + row.1)).isSome ||
            !Nat.beq (CodeRun.applyCode upperRuns (256 * page.1 + row.1))
              (256 * page.1 + row.1))) = true := by
  decide +kernel

/-- A row of the tables about a capital with marks comes with a row about its letter. -/
theorem isSome_probe_upperRuns :
    (canonicalMappings.all fun page => upperRuns.all fun r =>
      !r.range.meets page.1 || page.2.all fun row =>
        !r.range.holds (256 * page.1 + row.1) ||
          row.2.tail.isEmpty ||
            (canonicalMappings.probe (r.first + (256 * page.1 + row.1 - r.image))).isSome) =
      true := by
  decide +kernel

/-- No run of capitals takes marks to marks, and none goes beyond the characters or into the Hangul
    syllables. -/
theorem avoid_upperRuns :
    (upperRuns.all fun r =>
      (basicMarks.avoid r.range && supplementaryMarks.avoid r.range) &&
      (Nat.beq r.first 0x345 && Nat.beq r.last 0x345 ||
        basicMarks.avoid r.domain && supplementaryMarks.avoid r.domain) &&
      (Nat.blt r.range.2.1 0xAC00 || Nat.blt 0xDFFF r.range.1 && Nat.blt r.range.2.1 0x110000) &&
      (Nat.blt r.last 0xAC00 || Nat.blt 0xD7A3 r.first)) = true := by
  decide +kernel

theorem decomposedCodes_of_covers {page : Nat × CodeMap (List Nat)}
    (inPages : page ∈ canonicalMappings) {row : Nat × List Nat} (inPage : row ∈ page.2) {r : CodeRun}
    (member : r ∈ upperRuns) (domain : r.domain.Holds (256 * page.1 + row.1)) {n : Nat}
    {own : List Nat} (codes : row.2 = n :: own) :
    decomposedCodes (r.image + (256 * page.1 + row.1 - r.first)) =
      CodeRun.applyCode upperRuns n :: own := by
  have checked := List.all_eq_true.1 (List.all_eq_true.1 decomposedCodes_upperRuns page inPages) r
    member
  rw [domain.meets (lt_of_mem_page inPages inPage), Bool.not_true, Bool.false_or] at checked
  have checked := List.all_eq_true.1 checked row inPage
  rw [CodeSteps.holds_iff.2 domain, Bool.not_true, Bool.false_or, beq_iff_eq, codes] at checked
  exact checked

/-! ## Capitals by runs -/

theorem isLastingMark_of_not_isMark {c : Char} (letter : isMark c = false) :
    isLastingMark c = false := by
  rw [isLastingMark, letter, Bool.false_and]

theorem flatMap_decompose_ofNat {codes : List Nat} (listable : ∀ n ∈ codes, isListable n = true) :
    (codes.map Char.ofNat).flatMap decompose = (codes.flatMap decomposedCodes).map Char.ofNat := by
  rw [List.flatMap_map, List.map_flatMap]
  exact List.flatMap_congr fun n hn => decompose_ofNat (listable n hn)

theorem eq_of_map_ofNat {a b : List Nat} (ha : ∀ n ∈ a, isListable n = true)
    (hb : ∀ n ∈ b, isListable n = true) (same : a.map Char.ofNat = b.map Char.ofNat) : a = b := by
  have back {codes : List Nat} (listable : ∀ n ∈ codes, isListable n = true) :
      (codes.map Char.ofNat).map Char.toNat = codes := by
    rw [List.map_map]
    exact (List.map_congr_left fun n hn => (toNat_ofNat_of_isListable (listable n hn)).1).trans
      (List.map_id codes)
  rw [← back ha, same, back hb]

section Run

variable {r : CodeRun} (member : r ∈ upperRuns) {x : Char} (covers : r.covers x.toNat = true)

include member covers

/-- What a run of capitals takes a letter to is a letter, and no Hangul syllable. -/
theorem capital_of_covers :
    (Char.ofNat (r.image + (x.toNat - r.first))).toNat = r.image + (x.toNat - r.first) ∧
      isListable (r.image + (x.toNat - r.first)) = true ∧
      isMark (Char.ofNat (r.image + (x.toNat - r.first))) = false := by
  have checked := List.all_eq_true.1 avoid_upperRuns r member
  simp only [Bool.and_eq_true, Bool.or_eq_true, Nat.blt_eq] at checked
  obtain ⟨⟨⟨⟨basic, supplementary⟩, _⟩, inside⟩, _⟩ := checked
  have range := CodeRun.holds_range (CodeRun.covers_iff.1 covers)
  have low := range.1
  have high := range.2.1
  have listable : isListable (r.image + (x.toNat - r.first)) = true := by
    simp only [isListable, Bool.and_eq_true, Bool.or_eq_true, Nat.blt_eq, Bool.not_eq_true',
      ← Bool.not_eq_true, Nat.ble_eq]
    omega
  have code := (toNat_ofNat_of_isListable listable).1
  refine ⟨code, listable, ?_⟩
  rw [← code] at range
  rw [isMark, CodeRanges.contains_of_avoid basic range,
    CodeRanges.contains_of_avoid supplementary range, Bool.or_false]

/-- What a run of capitals takes to a letter is a letter too, or the iota below a letter. -/
theorem letter_of_covers : x = subscriptIota ∨ isMark x = false ∧ hangulLetters? x = none := by
  have checked := List.all_eq_true.1 avoid_upperRuns r member
  simp only [Bool.and_eq_true, Bool.or_eq_true, Nat.beq_eq, Nat.blt_eq] at checked
  obtain ⟨⟨⟨_, marks⟩, _⟩, outside⟩ := checked
  have domain := CodeRun.covers_iff.1 covers
  have low : r.first ≤ x.toNat := domain.1
  have high : x.toNat ≤ r.last := domain.2.1
  rcases marks with ⟨first, last⟩ | ⟨basic, supplementary⟩
  · have code : x.toNat = subscriptIota.toNat := by
      show x.toNat = 0x345
      omega
    exact .inl (Char.toNat_inj.1 code)
  · refine .inr ⟨?_, hangulLetters?_of_outside (by omega)⟩
    rw [isMark, CodeRanges.contains_of_avoid basic domain,
      CodeRanges.contains_of_avoid supplementary domain, Bool.or_false]

theorem tail_decompose_of_covers (free : hangulLetters? x = none) :
    (decompose (Char.ofNat (r.image + (x.toNat - r.first)))).tail = (decompose x).tail := by
  have domain := CodeRun.covers_iff.1 covers
  obtain ⟨code, listable, _⟩ := capital_of_covers member covers
  rcases decompose_cases x with hangul | ⟨page, inPages, row, inPage, here, whole⟩ | own
  · rw [free] at hangul
    exact absurd hangul (by simp)
  · obtain ⟨n, own, codes⟩ := List.exists_cons_of_ne_nil (isFinal_of_mem_row inPages inPage).1
    have checked := decomposedCodes_of_covers inPages inPage member (here ▸ domain) codes
    rw [here] at checked
    rw [decompose_ofNat listable, whole, ← List.map_tail, ← List.map_tail, checked, codes]
    rfl
  · -- A letter without a diacritic has a capital without one.
    rw [own, List.tail_cons]
    have range := CodeRun.holds_range domain
    have back : r.first + (r.image + (x.toNat - r.first) - r.image) = x.toNat := by
      have low : r.first ≤ x.toNat := domain.1
      omega
    rcases decompose_cases (Char.ofNat (r.image + (x.toNat - r.first))) with
      hangul | ⟨page, inPages, row, inPage, here, whole⟩ | final
    · rw [(toNat_ofNat_of_isListable listable).2] at hangul
      exact absurd hangul (by simp)
    · rw [code] at here
      have checked := List.all_eq_true.1
        (List.all_eq_true.1 isSome_probe_upperRuns page inPages) r member
      rw [← here] at range
      rw [range.meets (lt_of_mem_page inPages inPage), Bool.not_true, Bool.false_or] at checked
      have checked := List.all_eq_true.1 checked row inPage
      rw [CodeSteps.holds_iff.2 range, Bool.not_true, Bool.false_or, here, back,
        probe_eq_none_of_final own, Option.isSome_none, Bool.or_false, List.isEmpty_iff] at checked
      rw [whole, ← List.map_tail, checked, List.map_nil]
    · rw [final, List.tail_cons]

end Run

/-- The lasting marks of a letter come after its base letter. -/
theorem filter_decompose_eq_tail {x : Char} (letter : isMark x = false)
    (free : hangulLetters? x = none) :
    (decompose x).filter isLastingMark = (decompose x).tail.filter isLastingMark := by
  obtain ⟨b, marks, whole, plain, _⟩ := exists_decompose_eq_letter_marks letter free
  rw [whole, List.tail_cons, List.filter_cons_of_neg]
  rw [isLastingMark_of_not_isMark plain]
  exact Bool.false_ne_true

/-- The capital of a character has the marks of the character, but for the iota below. -/
theorem filter_decompose_upperLetter (x : Char) :
    ((upperLetter x).flatMap decompose).filter isLastingMark =
      (decompose x).filter isLastingMark := by
  by_cases iota : x = subscriptIota
  · rw [iota]
    decide +kernel
  rw [upperLetter]
  cases found : CodeMap.find? upperExpansions x.toNat with
  | some codes =>
    have checked := List.all_eq_true.1 marks_upperExpansions _ (CodeMap.mem_of_find? found)
    rw [Bool.and_eq_true, Bool.and_eq_true, List.all_eq_true, beq_iff_eq] at checked
    obtain ⟨⟨own, listable⟩, same⟩ := checked
    have whole := decompose_ofNat own
    rw [Char.ofNat_toNat] at whole
    rw [whole, ← same]
    exact congrArg _ (flatMap_decompose_ofNat listable)
  | none =>
    rcases CodeRun.apply_eq_or upperRuns x with same | ⟨r, member, covers, mapped⟩
    · rw [same, List.flatMap_singleton]
    · rw [mapped, List.flatMap_singleton]
      obtain ⟨_, listable, capital⟩ := capital_of_covers member covers
      obtain ⟨letter, free⟩ := (letter_of_covers member covers).resolve_left iota
      rw [filter_decompose_eq_tail capital (toNat_ofNat_of_isListable listable).2,
        filter_decompose_eq_tail letter free, tail_decompose_of_covers member covers free]

/-! ## Capitals of letters with marks -/

/-- Several characters that are the capital of a letter with marks. -/
theorem flatMap_decompose_of_expanded {x : Char} {capital : List Nat}
    (expanded : CodeMap.find? upperExpansions x.toNat = some capital) {n : Nat} {own : List Nat}
    (listable : ∀ k ∈ n :: own, isListable k = true)
    (whole : decompose x = (n :: own).map Char.ofNat) (several : own ≠ [])
    (noIota : subscriptIota ∉ own.map Char.ofNat) :
    (capital.map Char.ofNat).flatMap decompose =
      (CodeRun.applyCode upperRuns n :: own).map Char.ofNat := by
  have member := CodeMap.mem_of_find? expanded
  have listables := List.all_eq_true.1 marks_upperExpansions _ member
  rw [Bool.and_eq_true, Bool.and_eq_true, List.all_eq_true] at listables
  have checked := List.all_eq_true.1 decomposedCodes_upperExpansions _ member
  rw [Bool.and_eq_true, List.all_eq_true] at checked
  have codes : decomposedCodes x.toNat = n :: own := by
    have spelled := decompose_ofNat listables.1.1
    rw [Char.ofNat_toNat, whole] at spelled
    exact eq_of_map_ofNat checked.1 listable spelled.symm
  have lasting : own.any (Nat.beq subscriptIota.toNat) = false := by
    rw [List.any_eq_false]
    intro k hk same
    rw [Nat.beq_eq] at same
    exact noIota (List.mem_map.2 ⟨k, hk, by rw [← same, Char.ofNat_toNat]⟩)
  have same := checked.2
  rw [codes, List.tail_cons, List.isEmpty_eq_false_iff.2 several, lasting, Bool.false_or,
    Bool.false_or, beq_iff_eq] at same
  exact (flatMap_decompose_ofNat listables.1.2).trans (congrArg _ same)

/-- The capital of a letter with marks is that of the letter below them, with these marks. -/
theorem flatMap_decompose_upperLetter {x b : Char} {own : Text} (free : hangulLetters? x = none)
    (whole : decompose x = b :: own) (several : own ≠ []) (noIota : subscriptIota ∉ own) :
    (upperLetter x).flatMap decompose = (upperLetter b).flatMap decompose ++ own := by
  rcases decompose_cases x with hangul | ⟨page, inPages, row, inPage, here, mapped⟩ | alone
  · rw [free] at hangul
    exact absurd hangul (by simp)
  · obtain ⟨n, codes, listed, rfl, rfl⟩ := List.map_eq_cons_iff.1 (mapped.symm.trans whole)
    have listable : ∀ k ∈ row.2, isListable k = true := by
      intro k hk
      have final := (isFinal_of_mem_row inPages inPage).2 k hk
      rw [isFinal, Bool.and_eq_true] at final
      exact final.1
    have filled : codes ≠ [] := by simpa using several
    have checked := List.all_eq_true.1 (List.all_eq_true.1 capitals_mappings page inPages) row inPage
    rw [listed, List.tail_cons, List.isEmpty_eq_false_iff.2 filled, Bool.false_or, List.head?_cons,
      Option.all_some, Bool.and_eq_true, Option.isNone_iff_eq_none, here] at checked
    have raised : (upperLetter x).flatMap decompose =
        (CodeRun.applyCode upperRuns n :: codes).map Char.ofNat := by
      rw [upperLetter]
      cases expanded : CodeMap.find? upperExpansions x.toNat with
      | some capital =>
        exact flatMap_decompose_of_expanded expanded (listed ▸ listable) whole filled noIota
      | none =>
        rw [CodeRun.apply_eq_applyCode, List.flatMap_singleton]
        rcases CodeRun.applyCode_eq_or upperRuns x.toNat with same | ⟨r, member, domain, image⟩
        · have unchanged := checked.2
          rw [same, CodeMap.probe_eq_find?, expanded, Nat.beq_refl, Option.isSome_none,
            Bool.not_true, Bool.or_false, Bool.or_false, Nat.beq_eq] at unchanged
          rw [same, Char.ofNat_toNat, whole, unchanged, List.map_cons]
        · have capital := (capital_of_covers member (CodeRun.covers_iff.2 domain)).2.1
          rw [image, decompose_ofNat capital, ← here,
            decomposedCodes_of_covers inPages inPage member (here ▸ domain) listed]
    -- The capital of the letter below is a part of this, so that it does not decompose.
    have below : upperLetter (Char.ofNat n) = [Char.ofNat (CodeRun.applyCode upperRuns n)] := by
      have code := (toNat_ofNat_of_isListable (listable n (by simp [listed]))).1
      rw [upperLetter, ← CodeMap.probe_eq_find?, code, checked.1, CodeRun.apply_eq_applyCode, code]
    have member : Char.ofNat (CodeRun.applyCode upperRuns n) ∈ (upperLetter x).flatMap decompose :=
      raised ▸ List.mem_cons_self
    obtain ⟨_, _, member⟩ := List.mem_flatMap.1 member
    rw [raised, below, List.flatMap_singleton, decompose_eq_self_of_mem_decompose member,
      List.singleton_append, List.map_cons]
  · rw [alone, List.cons.injEq] at whole
    exact absurd whole.2.symm several

end SoundLaw
