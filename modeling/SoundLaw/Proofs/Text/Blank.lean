/-
  SoundLaw.Proofs.Text.Blank

  What the tables say about white space: none of it is a mark, it decomposes to a single character,
  which is white space as well, and nothing else decomposes to it.
-/
import SoundLaw.Proofs.Text.LetterTables
import SoundLaw.Text.Blank

namespace SoundLaw

/-- White space is no mark, and decomposes to white space. -/
theorem not_isMark_and_exists_decompose_of_isBlank {c : Char} (blank : isBlank c = true) :
    isMark c = false ∧ ∃ d, decompose c = [d] ∧ isBlank d = true := by
  have codes : (blanks.all fun r => (List.range' r.1 (r.2 + 1 - r.1)).all fun n =>
      !marksCover (n, n) && (isListable n && (Nat.beq (decomposedCodes n).length 1 &&
        (decomposedCodes n).all fun k => isListable k && blanks.covers (k, k)))) = true := by
    decide +kernel
  obtain ⟨r, member, first, last⟩ := isBlank_iff.1 blank
  have checked := List.all_eq_true.1 (List.all_eq_true.1 codes r member) c.toNat
    (List.mem_range'_1.2 ⟨first, by omega⟩)
  rw [Bool.and_eq_true, Bool.and_eq_true, Bool.and_eq_true, Nat.beq_eq, Bool.not_eq_true',
    ← isMark_eq_marksCover] at checked
  obtain ⟨letter, listable, single, white⟩ := checked
  have whole := decompose_ofNat listable
  obtain ⟨k, only⟩ := List.length_eq_one_iff.1 single
  rw [only, List.all_cons, List.all_nil, Bool.and_true, Bool.and_eq_true] at white
  rw [Char.ofNat_toNat, only, List.map_singleton] at whole
  refine ⟨letter, Char.ofNat k, whole, ?_⟩
  rw [isBlank, CodeRanges.contains_eq_covers, (toNat_ofNat_of_isListable white.1).1]
  exact white.2

theorem isBlank_of_isMark {m : Char} (mark : isMark m = true) : isBlank m = false := by
  rw [← Bool.not_eq_true]
  intro blank
  rw [(not_isMark_and_exists_decompose_of_isBlank blank).1] at mark
  exact absurd mark (by simp)

/-- Only white space decomposes to white space. -/
theorem isBlank_of_mem_decompose {c d : Char} (h : d ∈ decompose c) (blank : isBlank d = true) :
    isBlank c = true := by
  rcases mem_decompose_cases h with hangul | ⟨page, inPages, row, inPage, code, hn, _⟩ | same
  · -- No Hangul letter is white space.
    have apart : (blanks.all fun b => Nat.blt b.2 0x1100 || Nat.blt 0x11FF b.1) = true := by decide
    obtain ⟨b, member, first, last⟩ := isBlank_iff.1 blank
    have outside := List.all_eq_true.1 apart b member
    rw [Bool.or_eq_true, Nat.blt_eq, Nat.blt_eq] at outside
    omega
  · have rows : (canonicalMappings.all fun page => page.2.all fun row => row.2.all fun n =>
        !blanks.covers (n, n) ||
          blanks.covers (256 * page.1 + row.1, 256 * page.1 + row.1)) = true := by decide +kernel
    have checked := List.all_eq_true.1
      (List.all_eq_true.1 (List.all_eq_true.1 rows page inPages) row inPage) d.toNat hn
    rw [isBlank, CodeRanges.contains_eq_covers] at blank
    rw [blank, Bool.not_true, Bool.false_or, code] at checked
    rw [isBlank, CodeRanges.contains_eq_covers, checked]
  · exact same ▸ blank

end SoundLaw
