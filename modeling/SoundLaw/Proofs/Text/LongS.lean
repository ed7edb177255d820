/-
  SoundLaw.Proofs.Text.LongS

  The long `ſ`, which stands in for the digraph `ss` and is the same letter as `s`. Folding by the
  digraphs of words can fail on it alone: `ſs` is read as `ss`, and its lower case is not listed.
  Every text in which it does not occur is listed (`lists_words`). Decomposing a text brings it in
  where it is written with its dot, and nowhere else, and lowering a text does not bring it in.
-/
import SoundLaw.Proofs.Text.NormalForm
import SoundLaw.Spelling.Folded

namespace SoundLaw

/-- Whether a character is the long `ſ`, or has it as its letter. -/
def isLongS (c : Char) : Bool := c == 'ſ' || c == 'ẛ'

/-- A text has no long `ſ`. -/
def Text.IsShort (t : Text) : Prop := ∀ c ∈ t, isLongS c = false

theorem isLongS_iff {c : Char} : isLongS c = true ↔ c = 'ſ' ∨ c = 'ẛ' := by
  simp [isLongS]

theorem isLongS_iff_toNat {c : Char} :
    isLongS c = true ↔ c.toNat = 0x17F ∨ c.toNat = 0x1E9B := by
  rw [isLongS_iff, ← Char.toNat_inj, ← Char.toNat_inj]
  rfl

theorem code_of_isLongS_ofNat {n : Nat} (h : isLongS (Char.ofNat n) = true) :
    n = 0x17F ∨ n = 0x1E9B := by
  by_cases valid : n.isValidChar
  · rw [← toNat_ofNat_of_isValidChar valid]
    exact isLongS_iff_toNat.1 h
  · -- Any other number gives the null character.
    rw [Char.ofNat, dif_neg valid] at h
    exact absurd h (by decide)

/-! ## Decomposing -/

theorem isLongS_of_mem_decompose {c d : Char} (h : d ∈ decompose c) (long : isLongS d = true) :
    isLongS c = true := by
  rcases decompose_cases c with hangul | ⟨page, inPages, row, inPage, code, mapped⟩ | same
  · have letter := toNat_of_mem_hangulLetters? hangul h
    have long := isLongS_iff_toNat.1 long
    omega
  · -- Of all rows, only that of the dotted letter has a long `ſ` among its code points.
    have rows : (canonicalMappings.all fun page => page.2.all fun row => row.2.all fun n =>
        !(n == 0x17F || n == 0x1E9B) ||
          (256 * page.1 + row.1 == 0x17F || 256 * page.1 + row.1 == 0x1E9B)) = true := by
      decide +kernel
    have checked := List.all_eq_true.1 (List.all_eq_true.1 rows page inPages) row inPage
    rw [mapped] at h
    obtain ⟨n, listed, rfl⟩ := List.mem_map.1 h
    have checked := List.all_eq_true.1 checked n listed
    rw [code] at checked
    have code : n == 0x17F || n == 0x1E9B := by simpa using code_of_isLongS_ofNat long
    rw [code, Bool.not_true, Bool.false_or, Bool.or_eq_true, beq_iff_eq, beq_iff_eq] at checked
    exact isLongS_iff_toNat.2 checked
  · rw [same, List.mem_singleton] at h
    rwa [h] at long

theorem Text.IsShort.nfd {t : Text} (h : t.IsShort) : t.nfd.IsShort := by
  intro d hd
  obtain ⟨c, member, hd⟩ := mem_nfd.1 hd
  have short := h c member
  rw [← Bool.not_eq_true] at short ⊢
  exact fun long => short (isLongS_of_mem_decompose hd long)

theorem Text.IsShort.base {t : Text} (h : t.nfd.IsShort) : t.base.IsShort :=
  fun c hc => h c (List.mem_of_mem_filter hc)

/-! ## Lower case -/

theorem isLongS_of_lowerLetter {c : Char} (long : isLongS (lowerLetter c) = true) :
    isLongS c = true := by
  rcases CodeRun.apply_eq_or lowerRuns c with same | ⟨r, member, covers, mapped⟩
  · rwa [lowerLetter, same] at long
  · -- No run of capitals has a long `ſ` among its images.
    have runs : (lowerRuns.all fun r => [0x17F, 0x1E9B].all fun n =>
        !(Nat.ble r.image n && Nat.ble n (r.image + (r.last - r.first))) ||
          (n - r.image) % r.step != 0) = true := by decide +kernel
    rw [lowerLetter, mapped] at long
    have code := code_of_isLongS_ofNat long
    rw [CodeRun.covers, Bool.and_eq_true, Bool.and_eq_true, decide_eq_true_eq, decide_eq_true_eq,
      beq_iff_eq] at covers
    obtain ⟨⟨first, last⟩, step⟩ := covers
    have checked := List.all_eq_true.1 runs r member
    have image : r.image + (c.toNat - r.first) - r.image = c.toNat - r.first := by omega
    have checked := List.all_eq_true.1 checked (r.image + (c.toNat - r.first)) (by simpa using code)
    rw [image, step] at checked
    have inside : Nat.ble (r.image + (c.toNat - r.first)) (r.image + (r.last - r.first)) = true := by
      rw [Nat.ble_eq]
      omega
    have after : Nat.ble r.image (r.image + (c.toNat - r.first)) = true := by
      rw [Nat.ble_eq]
      omega
    rw [inside, after] at checked
    exact absurd checked (by simp)

theorem isLongS_of_mem_lowerBetween {before after : Text} {c d : Char}
    (h : d ∈ lowerBetween before c after) (long : isLongS d = true) : isLongS c = true := by
  rw [lowerBetween] at h
  -- A sigma, an `İ`, or any other character.
  split at h
  · split at h <;> rw [List.mem_singleton.1 h] at long <;> exact absurd long (by decide)
  · split at h
    · rcases List.mem_cons.1 h with rfl | h
      · exact absurd long (by decide)
      · rw [List.mem_singleton.1 h] at long
        exact absurd long (by decide)
    · rw [List.mem_singleton.1 h] at long
      exact isLongS_of_lowerLetter long

theorem isShort_lowerFrom (before : Text) {t : Text} (h : t.IsShort) :
    Text.IsShort (lowerFrom before t) := by
  induction t generalizing before with
  | nil => simp [lowerFrom, Text.IsShort]
  | cons c t ih =>
    obtain ⟨first, others⟩ := List.forall_mem_cons.1 h
    intro d hd
    rw [lowerFrom, List.mem_append] at hd
    rcases hd with here | later
    · rw [← Bool.not_eq_true] at first ⊢
      exact fun long => first (isLongS_of_mem_lowerBetween here long)
    · exact ih (c :: before) others d later

theorem Text.IsShort.lower {t : Text} (h : t.IsShort) : t.lower.IsShort := isShort_lowerFrom [] h

/-! ## Folding -/

theorem Text.IsShort.notMem {t : Text} (h : t.IsShort) : 'ſ' ∉ t := by
  intro long
  exact absurd (h 'ſ' long) (by decide)

theorem eq_longS_of_lowerLetter {c : Char} (long : lowerLetter c = 'ſ') : c = 'ſ' := by
  have isLong : isLongS (lowerLetter c) = true := isLongS_iff.2 (Or.inl long)
  rcases isLongS_iff.1 (isLongS_of_lowerLetter isLong) with same | rfl
  · exact same
  · exact absurd long (by decide +kernel)

theorem lowerLetter_eq_s_of_sameLetter {c : Char} (short : c ≠ 'ſ')
    (same : sameLetter c 's' = true) : lowerLetter c = 's' := by
  have small : lowerLetter 's' = 's' := by decide +kernel
  have others : CodeMap.find? sameCapital 's'.toNat = some [0x17F] := by decide +kernel
  rw [sameLetter, small, others, Bool.or_eq_true, beq_iff_eq, Option.getD_some,
    List.contains_iff_mem, List.mem_singleton] at same
  rcases same with same | long
  · exact same
  · -- The only other letter with the capital of `s` is the long one.
    exact absurd (eq_longS_of_lowerLetter (Char.toNat_inj.1 long)) short

/-- The digraphs of words list every text without the long `ſ` itself. -/
theorem lists_words {t : Text} (short : 'ſ' ∉ t) : DigraphTable.words.Lists t := by
  intro d member k letter c inside same
  have plain : (DigraphTable.words.all fun d => d.1.all fun k => isPlainLetter k || k == 's') =
      true := by decide +kernel
  have plain := List.all_eq_true.1 (List.all_eq_true.1 plain d member) k letter
  rw [Bool.or_eq_true, beq_iff_eq] at plain
  -- All letters of the digraphs are plain but `s`.
  rcases plain with plain | rfl
  · exact ⟨lowerLetter_eq_of_sameLetter plain same, ne_of_sameLetter plain same⟩
  · have small := lowerLetter_eq_s_of_sameLetter (ne_of_mem_of_not_mem inside short) same
    refine ⟨small, ?_, ?_⟩
    · rintro rfl
      exact absurd small (by decide +kernel)
    · rintro rfl
      exact absurd small (by decide +kernel)

end SoundLaw
