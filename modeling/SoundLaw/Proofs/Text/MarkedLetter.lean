/-
  SoundLaw.Proofs.Text.MarkedLetter

  The canonical forms of a letter with marks. Hangul syllables apart, a letter decomposes to one
  letter with marks, and marks decompose to marks; so the decomposed form is one letter followed by
  all the marks in canonical order. The same holds of several letters that do not decompose to more
  than one character each: they stay in front of the marks. The composed form is a letter with marks
  again, and this is the letter itself or one that decomposes to more than it.
-/
import SoundLaw.Proofs.Text.Concatenation

namespace SoundLaw

/-! ## Letters -/

/-- What a row of the tables gives after its first code point are marks. -/
theorem marksCover_mappings :
    (canonicalMappings.all fun page => page.2.all fun row =>
      row.2.tail.all fun n => marksCover (n, n)) = true := by
  decide +kernel

/-- Hangul syllables apart, a letter decomposes to one letter with marks. -/
theorem exists_decompose_eq_letter_marks {c : Char} (letter : isMark c = false)
    (single : hangulLetters? c = none) :
    ∃ b marks, decompose c = b :: marks ∧ isMark b = false ∧ ∀ m ∈ marks, isMark m = true := by
  obtain ⟨b, rest, whole, plain, _⟩ := exists_decompose_eq_cons letter
  refine ⟨b, rest, whole, plain, fun m hm => ?_⟩
  rcases decompose_cases c with hangul | ⟨page, inPages, row, inPage, _, mapped⟩ | same
  · rw [single] at hangul
    exact absurd hangul (by simp)
  · rw [whole] at mapped
    obtain ⟨n, codes, listed, rfl, rfl⟩ := List.map_eq_cons_iff.1 mapped.symm
    obtain ⟨code, member, rfl⟩ := List.mem_map.1 hm
    have final := (isFinal_of_mem_row inPages inPage).2 code (by simp [listed, member])
    have covered := List.all_eq_true.1
      (List.all_eq_true.1 marksCover_mappings page inPages) row inPage
    rw [listed, List.tail_cons] at covered
    rw [isFinal, Bool.and_eq_true] at final
    rw [isMark_eq_marksCover, (toNat_ofNat_of_isListable final.1).1]
    exact List.all_eq_true.1 covered code member
  · rw [whole, List.cons.injEq] at same
    rw [same.2] at hm
    exact absurd hm (by simp)

/-! ## Decomposed forms -/

/-- Marks stay marks in the decomposed form. -/
theorem isMark_of_mem_nfd {marks : Text} (marked : ∀ m ∈ marks, isMark m = true) :
    ∀ m ∈ marks.nfd, isMark m = true := by
  intro m hm
  obtain ⟨c, member, hm⟩ := mem_nfd.1 hm
  exact isMark_of_mem_decompose (marked c member) hm

/-- Marks have no base. -/
theorem base_of_marks_only {marks : Text} (marked : ∀ m ∈ marks, isMark m = true) :
    marks.base = [] := by
  rw [Text.base, List.filter_eq_nil_iff]
  intro m hm
  simp [isMark_of_mem_nfd marked m hm]

/-- A letter with marks decomposes to one letter with marks. -/
theorem exists_nfd_eq_letter_marks {c : Char} {marks : Text} (letter : isMark c = false)
    (single : hangulLetters? c = none) (marked : ∀ m ∈ marks, isMark m = true) :
    ∃ b rest, Text.nfd (c :: marks) = b :: rest ∧ isMark b = false ∧
      ∀ m ∈ rest, isMark m = true := by
  obtain ⟨b, own, whole, plain, ownMarked⟩ := exists_decompose_eq_letter_marks letter single
  refine ⟨b, reorderMarks (own ++ marks.flatMap decompose), ?_, plain, fun m hm => ?_⟩
  · rw [Text.nfd, List.flatMap_cons, whole, List.cons_append]
    exact insertMark_of_starter (combiningClass_of_not_isMark plain) _
  · rcases List.mem_append.1 ((reorderMarks_perm _).mem_iff.1 hm) with here | later
    · exact ownMarked m here
    · obtain ⟨d, member, hm⟩ := List.mem_flatMap.1 later
      exact isMark_of_mem_decompose (marked d member) hm

/-- A letter that decomposes to a single letter, such as the Kelvin sign or any letter without a
    diacritic. -/
def IsBareLetter (c : Char) : Prop := isMark c = false ∧ (decompose c).length = 1

theorem not_isBareLetter_of_isMark {c : Char} (mark : isMark c = true) : ¬IsBareLetter c :=
  fun bare => absurd (mark.symm.trans bare.1) (by simp)

theorem IsBareLetter.exists_decompose {c : Char} (h : IsBareLetter c) :
    ∃ b, decompose c = [b] ∧ isMark b = false := by
  obtain ⟨b, rest, whole, plain, _⟩ := exists_decompose_eq_cons h.1
  obtain rfl : rest = [] := List.length_eq_zero_iff.1 (by simpa [whole] using h.2)
  exact ⟨b, whole, plain⟩

/-- Characters that decompose to letters alone stay in front of what follows them. -/
theorem nfd_letters_append {x t : Text} (letters : ∀ d ∈ x.flatMap decompose, isMark d = false) :
    (x ++ t).nfd = x.flatMap decompose ++ t.nfd := by
  rw [Text.nfd, List.flatMap_append]
  generalize x.flatMap decompose = y at letters ⊢
  induction y with
  | nil => rfl
  | cons d y ih =>
    obtain ⟨here, later⟩ := List.forall_mem_cons.1 letters
    rw [List.cons_append, List.cons_append, ← ih later]
    exact insertMark_of_starter (combiningClass_of_not_isMark here) _

/-- Bare letters stay in front of what follows them. -/
theorem nfd_bareLetters_append {letters t : Text} (bare : ∀ c ∈ letters, IsBareLetter c) :
    (letters ++ t).nfd = letters.flatMap decompose ++ t.nfd := by
  refine nfd_letters_append fun d hd => ?_
  obtain ⟨c, hc, hd⟩ := List.mem_flatMap.1 hd
  obtain ⟨b, whole, plain⟩ := (bare c hc).exists_decompose
  rw [whole] at hd
  rwa [List.mem_singleton.1 hd]

theorem marks_bareLetters_append {letters marks : Text} (bare : ∀ c ∈ letters, IsBareLetter c)
    (marked : ∀ m ∈ marks, isMark m = true) : Text.marks (letters ++ marks) = marks.nfd := by
  have none : (letters.flatMap decompose).filter isMark = [] := by
    rw [List.filter_eq_nil_iff]
    intro b hb
    obtain ⟨c, member, hb⟩ := List.mem_flatMap.1 hb
    obtain ⟨b', whole, plain⟩ := (bare c member).exists_decompose
    rw [whole] at hb
    rw [List.mem_singleton.1 hb, plain]
    exact Bool.false_ne_true
  rw [Text.marks, nfd_bareLetters_append bare, List.filter_append, none, List.nil_append,
    List.filter_eq_self]
  exact isMark_of_mem_nfd marked

/-- A letter that does not decompose stays in front of its marks. -/
theorem nfd_cons_of_final {b : Char} (final : decompose b = [b]) (letter : isMark b = false)
    (t : Text) : Text.nfd (b :: t) = b :: t.nfd := by
  have bare : ∀ c ∈ [b], IsBareLetter c :=
    List.forall_mem_singleton.2 ⟨letter, by rw [final, List.length_singleton]⟩
  rw [← List.singleton_append, nfd_bareLetters_append bare, List.flatMap_singleton, final,
    List.singleton_append]

/-- A text that decomposes to a letter with marks has this letter as its base. -/
theorem base_eq_and_marks_eq {t : Text} {b : Char} {rest : Text} (whole : t.nfd = b :: rest)
    (letter : isMark b = false) (marked : ∀ m ∈ rest, isMark m = true) :
    t.base = [b] ∧ t.marks = rest := by
  have noLetter : rest.filter (fun c => !isMark c) = [] := by
    simpa [List.filter_eq_nil_iff] using marked
  have allMarks : rest.filter isMark = rest := List.filter_eq_self.2 marked
  constructor
  · simp [Text.base, whole, letter, noLetter]
  · simp [Text.marks, whole, letter, allMarks]

theorem base_and_marks_singleton {b : Char} (final : decompose b = [b]) (letter : isMark b = false) :
    Text.base [b] = [b] ∧ Text.marks [b] = [] :=
  base_eq_and_marks_eq (nfd_cons_of_final final letter []) letter (by simp)

/-- Before a letter, a text keeps its base and its marks. -/
theorem base_append_and_marks_append {a b : Text} (letter : ∀ c ∈ b.head?, isMark c = false) :
    (a ++ b).base = a.base ++ b.base ∧ (a ++ b).marks = a.marks ++ b.marks := by
  rw [Text.base, Text.marks, Text.nfd_append letter, List.filter_append, List.filter_append]
  exact ⟨rfl, rfl⟩

section

variable {α : Type} {f : α → Text} {xs : List α}
  (lettered : ∀ x ∈ xs, ∀ c ∈ (f x).head?, isMark c = false)

include lettered

/-- Texts that begin with letters join to one that does. -/
theorem isMark_head?_flatMap : ∀ c ∈ (xs.flatMap f).head?, isMark c = false := by
  intro c hc
  obtain ⟨x, member, hc⟩ := List.exists_of_findSome?_eq_some
    (List.head?_flatMap.symm.trans (Option.mem_def.1 hc))
  exact lettered x member c hc

/-- Texts that begin with letters are decomposed one by one. -/
theorem nfd_flatMap : Text.nfd (xs.flatMap f) = xs.flatMap fun x => (f x).nfd := by
  induction xs with
  | nil => rfl
  | cons x xs ih =>
    have later := (List.forall_mem_cons.1 lettered).2
    rw [List.flatMap_cons, List.flatMap_cons, Text.nfd_append (isMark_head?_flatMap later), ih later]

end

/-! ## Composed forms -/

/-- What a character decomposes to begins with a mark exactly if the character is one. -/
theorem exists_head_decompose (c : Char) :
    ∃ d rest, decompose c = d :: rest ∧ isMark d = isMark c := by
  cases mark : isMark c with
  | false =>
    obtain ⟨d, rest, whole, plain, _⟩ := exists_decompose_eq_cons mark
    exact ⟨d, rest, whole, plain⟩
  | true =>
    obtain ⟨d, rest, whole⟩ := List.exists_cons_of_ne_nil (decompose_ne_nil c)
    exact ⟨d, rest, whole, isMark_of_mem_decompose mark (by simp [whole])⟩

theorem isMark_of_isMark_nfd {t : Text} (marked : ∀ c ∈ t.nfd, isMark c = true) :
    ∀ c ∈ t, isMark c = true := by
  intro c hc
  obtain ⟨d, rest, whole, same⟩ := exists_head_decompose c
  rw [← same]
  exact marked d (mem_nfd.2 ⟨c, hc, by simp [whole]⟩)

/-- Composing leaves marks marks. -/
theorem isMark_of_mem_nfc {marks : Text} (marked : ∀ m ∈ marks, isMark m = true) :
    ∀ m ∈ marks.nfc, isMark m = true := by
  apply isMark_of_isMark_nfd
  rw [Text.nfd_nfc]
  exact isMark_of_mem_nfd marked

/-- A composite is a mark exactly if its first part is. -/
theorem isMark_of_composite? {first second joined : Char}
    (joins : composite? first second = some joined) : isMark joined = isMark first := by
  obtain ⟨d, rest, whole, same⟩ := exists_head_decompose first
  obtain ⟨e, tail, parts, like⟩ := exists_head_decompose joined
  rw [decompose_of_composite? joins, whole, List.cons_append] at parts
  rw [← like, ← same, (List.cons.inj parts).1]

/-- Marks that are composed onto a character leave it a letter or a mark, and leave only marks
    behind it. The character stays, or it becomes one that decomposes to more. -/
theorem exists_composeOnto_eq_cons_marks (starter : Char) (kept t : Text)
    (keptMarked : ∀ m ∈ kept, isMark m = true) (marked : ∀ m ∈ t, isMark m = true) :
    ∃ c rest, composeOnto starter kept t = c :: rest ∧ isMark c = isMark starter ∧
      (∀ m ∈ rest, isMark m = true) ∧
      (c = starter ∨ (decompose starter).length < (decompose c).length) := by
  fun_induction composeOnto starter kept t with
  | case1 starter kept =>
    exact ⟨starter, kept.reverse, rfl, rfl, fun m hm => keptMarked m (List.mem_reverse.1 hm),
      Or.inl rfl⟩
  | case2 starter kept m t joined found ih =>
    obtain ⟨c, rest, whole, same, restMarked, larger⟩ :=
      ih keptMarked (List.forall_mem_cons.1 marked).2
    have joins : composite? starter m = some joined := by
      split at found
      · exact found
      · exact absurd found (by simp)
    refine ⟨c, rest, whole, same.trans (isMark_of_composite? joins), restMarked, Or.inr ?_⟩
    -- A joined character decomposes to what both of them do, so that it only gets longer.
    have more := length_decompose_pos m
    have lengths := congrArg List.length (decompose_of_composite? joins)
    rw [List.length_append] at lengths
    rcases larger with rfl | larger
    · omega
    · omega
  | case3 starter kept m t _ startsAgain ih =>
    obtain ⟨mark, later⟩ := List.forall_mem_cons.1 marked
    obtain ⟨c, rest, whole, same, restMarked, _⟩ := ih (by simp) later
    refine ⟨starter, kept.reverse ++ c :: rest, by rw [whole]; rfl, rfl, fun d hd => ?_, Or.inl rfl⟩
    rcases List.mem_append.1 hd with before | after
    · exact keptMarked d (List.mem_reverse.1 before)
    · rcases List.mem_cons.1 after with rfl | after
      · rw [same, mark]
      · exact restMarked d after
  | case4 starter kept m t _ _ ih =>
    obtain ⟨mark, later⟩ := List.forall_mem_cons.1 marked
    exact ih (List.forall_mem_cons.2 ⟨mark, keptMarked⟩) later

/-- A letter that does not decompose and does not join a Hangul syllable. -/
structure IsSimpleLetter (c : Char) : Prop where
  letter : isMark c = false
  final : decompose c = [c]
  apart : c.toNat / 256 ≠ 0x11

/-- Simple letters are composed with no other letter. -/
theorem nfc_simpleLetters_append {front t : Text} (simple : ∀ c ∈ front, IsSimpleLetter c)
    (begins : ∀ c ∈ t.head?, isMark c = false ∧ c.toNat / 256 ≠ 0x11) :
    (front ++ t).nfc = front ++ t.nfc := by
  induction front with
  | nil => rfl
  | cons c front ih =>
    obtain ⟨here, later⟩ := List.forall_mem_cons.1 simple
    have own : Text.nfc [c] = [c] := by
      rw [Text.nfc, nfd_cons_of_final here.final here.letter]
      rfl
    have next : ∀ d ∈ (front ++ t).head?, isMark d = false ∧ d.toNat / 256 ≠ 0x11 := by
      cases front with
      | nil => exact begins
      | cons e front =>
        have first := later e List.mem_cons_self
        exact fun d hd => Option.mem_some_iff.1 hd ▸ ⟨first.letter, first.apart⟩
    rw [List.cons_append, ← List.singleton_append, Text.nfc_append (fun d hd => (next d hd).1), own,
      ih later, List.singleton_append, List.cons_append]
    exact fun e _ d hd => hangulSyllable?_eq_none (Or.inl (next d hd).2) e

theorem exists_first_last {letters : Text} (several : 2 ≤ letters.length) :
    ∃ first others last, letters = first :: others ++ [last] := by
  match letters with
  | first :: second :: more =>
    exact ⟨first, (second :: more).dropLast, _,
      (congrArg (first :: ·) (List.dropLast_append_getLast (List.cons_ne_nil second more))).symm⟩

/-- Marks join only the last one of several letters. -/
theorem nfc_simpleLetters_last {first last : Char} {others : Text}
    (simple : ∀ c ∈ first :: others ++ [last], IsSimpleLetter c) (marks : Text) :
    Text.nfc (first :: others ++ last :: marks) = first :: others ++ Text.nfc (last :: marks) := by
  have simpleLast := simple last (by simp)
  refine nfc_simpleLetters_append (fun c hc => simple c (List.mem_append_left _ hc)) ?_
  exact fun c hc => Option.mem_some_iff.1 hc ▸ ⟨simpleLast.letter, simpleLast.apart⟩

/-- A letter that does not decompose, with marks, composes to a letter with marks: itself, or one
    that is no longer bare. -/
theorem exists_nfc_eq_letter_marks {b : Char} {marks : Text} (final : decompose b = [b])
    (letter : isMark b = false) (marked : ∀ m ∈ marks, isMark m = true) :
    ∃ c rest, Text.nfc (b :: marks) = c :: rest ∧ isMark c = false ∧
      (∀ m ∈ rest, isMark m = true) ∧ (c = b ∨ ¬IsBareLetter c) := by
  obtain ⟨c, rest, composed, same, restMarked, larger⟩ :=
    exists_composeOnto_eq_cons_marks b [] marks.nfd (by simp) (isMark_of_mem_nfd marked)
  refine ⟨c, rest, ?_, same.trans letter, restMarked, larger.imp_right fun larger bare => ?_⟩
  · rw [Text.nfc, nfd_cons_of_final final letter]
    exact composed
  · rw [final, List.length_singleton, bare.2] at larger
    omega

end SoundLaw
