/-
  SoundLaw.Proofs.Phoneme.Reading

  How what is written for one phoneme is read. A character with marks is one phoneme, and stays it
  when it is composed (`keys_nfc_cons_marks`), and so are the letters of a digraph with marks
  (`keys_of_opens`). A text with a letter that no digraph reaches from the start is more than one
  phoneme (`two_le_length_keys`).
-/
import Mathlib.Data.List.TakeWhile
import SoundLaw.Proofs.Phoneme.CanonicalForms
import SoundLaw.Proofs.Phoneme.Keys
import SoundLaw.Proofs.Spelling.Rendering

namespace SoundLaw

/-! ## A character with marks -/

/-- A Hangul syllable decomposes to several letters. -/
theorem hangulLetters?_eq_none_of_nfd {c b : Char} {t marks : Text}
    (whole : Text.nfd (c :: t) = b :: marks) (marked : ∀ m ∈ marks, isMark m = true) :
    hangulLetters? c = none := by
  cases hangul : hangulLetters? c with
  | none => rfl
  | some letters =>
    have parts : decompose c = letters := by simp [decompose, hangul]
    have lettered : ∀ d ∈ letters, isMark d = false :=
      fun d hd => not_isMark_of_hangulPage (toNat_of_mem_hangulLetters? hangul hd)
    have decomposed : Text.nfd (c :: t) = letters ++ t.nfd := by
      rw [← List.singleton_append, nfd_letters_append, List.flatMap_singleton, parts]
      rwa [List.flatMap_singleton, parts]
    obtain ⟨first, second, others, rfl⟩ :
        ∃ first second others, letters = first :: second :: others := by
      have several := two_le_length_of_hangulLetters? hangul
      rcases letters with _ | ⟨first, _ | ⟨second, others⟩⟩
      · exact absurd several (by simp)
      · exact absurd several (by simp)
      · exact ⟨first, second, others, rfl⟩
    have mark := marked second (by simp [← (List.cons.inj (decomposed.symm.trans whole)).2])
    rw [lettered second (by simp)] at mark
    exact absurd mark (by simp)

section Marks

variable {c : Char} {marks : Text} (marked : ∀ m ∈ marks, isMark m = true)

include marked

theorem reach_rules_marks : DigraphTable.rules.reach (c :: marks) = none := by
  rw [← List.singleton_append,
    reach_rules_append fun m hm => not_isBareLetter_of_isMark (marked m hm)]
  exact DigraphTable.reach_singleton DigraphTable.two_le_length_rules c

theorem keys_cons_marks : Text.keys (c :: marks) = [(Text.base (c :: marks)).lower] := by
  have unread := reach_rules_marks (c := c) marked
  have whole : c :: marks = [c] ++ (marks ++ []) := by simp
  have one : graphemes DigraphTable.rules isMark (c :: marks) = _ :=
    graphemes_eq_cons whole (by simp [DigraphTable.extent, unread]) marked (by simp)
  rw [Text.keys_eq, one, graphemes_nil, List.map_singleton,
    Grapheme.key_of_letter DigraphTable.ne_nil_rules (by simp [unread])]
  rfl

/-- Hangul syllables apart, a character has the same base whatever marks follow it. -/
theorem base_cons_marks (single : hangulLetters? c = none) :
    Text.base (c :: marks) = Text.base [c] := by
  cases mark : isMark c with
  | true =>
    rw [base_of_marks_only (List.forall_mem_cons.2 ⟨mark, marked⟩),
      base_of_marks_only (List.forall_mem_singleton.2 mark)]
  | false =>
    obtain ⟨b, own, whole, plain, ownMarked⟩ := exists_decompose_eq_letter_marks mark single
    have letter : (decompose c).filter (fun d => !isMark d) = [b] := by
      rw [whole, List.filter_cons_of_pos (by simp [plain]), List.filter_eq_nil_iff.2]
      intro m hm
      simp [ownMarked m hm]
    have one := base_perm_of_marks (c := c) marked
    have other := base_perm_of_marks (c := c) (List.forall_mem_nil fun d => isMark d = true)
    rw [letter] at one other
    rw [List.perm_singleton.1 one, List.perm_singleton.1 other]

/-- A character with marks composes to a character with marks, with the same base. -/
theorem exists_nfc_eq_cons_marks (single : hangulLetters? c = none) :
    ∃ d rest, Text.nfc (c :: marks) = d :: rest ∧ isMark d = isMark c ∧
      hangulLetters? d = none ∧ Text.base [d] = Text.base [c] ∧ ∀ m ∈ rest, isMark m = true := by
  have base : ∀ d rest, Text.nfc (c :: marks) = d :: rest → hangulLetters? d = none →
      (∀ m ∈ rest, isMark m = true) → Text.base [d] = Text.base [c] := by
    intro d rest composed free restMarked
    rw [← base_cons_marks restMarked free, ← composed, Text.base, Text.nfd_nfc, ← Text.base,
      base_cons_marks marked single]
  cases mark : isMark c with
  | true =>
    have composed := isMark_of_mem_nfc (List.forall_mem_cons.2 ⟨mark, marked⟩)
    obtain ⟨d, rest, whole⟩ := List.exists_cons_of_ne_nil (Text.nfc_ne_nil (List.cons_ne_nil c marks))
    rw [whole] at composed
    obtain ⟨first, later⟩ := List.forall_mem_cons.1 composed
    have free := hangulLetters?_eq_none_of_isMark first
    exact ⟨d, rest, whole, first, free, base d rest whole free later, later⟩
  | false =>
    obtain ⟨b, rest, decomposed, plain, restMarked⟩ := exists_nfd_eq_letter_marks mark single marked
    obtain ⟨d, later, composed, same, laterMarked, _⟩ :=
      exists_composeOnto_eq_cons_marks b [] rest (by simp) restMarked
    have whole : Text.nfc (c :: marks) = d :: later := by
      rw [Text.nfc, decomposed]
      exact composed
    rw [← Text.nfd_nfc, whole] at decomposed
    have free := hangulLetters?_eq_none_of_nfd decomposed restMarked
    exact ⟨d, later, whole, same.trans plain, free, base d later whole free laterMarked, laterMarked⟩

/-- Composing a character with marks leaves its key. -/
theorem keys_nfc_cons_marks (single : hangulLetters? c = none) :
    Text.keys (Text.nfc (c :: marks)) = [(Text.base [c]).lower] := by
  obtain ⟨d, rest, composed, _, free, base, restMarked⟩ := exists_nfc_eq_cons_marks marked single
  rw [composed, keys_cons_marks restMarked, base_cons_marks restMarked free, base]

end Marks

/-! ## A digraph with marks -/

/-- The stand-in of each digraph of rule notation is found by its spelling. -/
theorem lookup_rules : ∀ d ∈ DigraphTable.rules, DigraphTable.rules.lookup d.1 = some d.2 := by
  decide

theorem DigraphTable.opens_self (spelling : Text) : DigraphTable.opens spelling spelling = true := by
  induction spelling with
  | nil => rfl
  | cons k spelling ih => rw [DigraphTable.opens, sameLetter_self, ih, Bool.and_self]

theorem reach_of_opens {table : DigraphTable} {d : Text × Text} (hd : d ∈ table.readable)
    {letters : Text} (opening : DigraphTable.opens d.1 letters = true)
    (length : letters.length = d.1.length) : table.reach letters = some d.1.length := by
  rw [DigraphTable.reach_eq_some_iff]
  refine ⟨⟨d, hd, opening, rfl⟩, fun e _ opens => ?_⟩
  exact length ▸ DigraphTable.length_le_of_opens opens

/-- A digraph has its stand-in, in whatever case it is spelled. -/
theorem standIn?_of_opens {d : Text × Text} (hd : d ∈ DigraphTable.rules) {letters : Text}
    (opening : DigraphTable.opens d.1 letters = true) (length : letters.length = d.1.length) :
    DigraphTable.rules.standIn? letters = some d.2 := by
  obtain ⟨small, sigma, dotted⟩ := DigraphTable.map_lowerLetter_take_of_opens
    (DigraphTable.lists_of_isPlain DigraphTable.isPlain_rules letters d hd) opening
  rw [List.take_of_length_le (Nat.le_of_eq length)] at small sigma dotted
  rw [DigraphTable.standIn?, Text.lower, lowerFrom_eq_map [] letters sigma dotted, small,
    lookup_rules d hd]

theorem keys_of_opens {d : Text × Text} (hd : d ∈ DigraphTable.rules) {letters marks : Text}
    (opening : DigraphTable.opens d.1 letters = true) (length : letters.length = d.1.length)
    (marked : ∀ m ∈ marks, isMark m = true) : Text.keys (letters ++ marks) = [d.2] := by
  have nonempty := List.length_pos_iff.2 (DigraphTable.ne_nil_rules d hd)
  have reached : DigraphTable.rules.reach (letters ++ marks) = some d.1.length := by
    rw [reach_rules_append fun m hm => not_isBareLetter_of_isMark (marked m hm)]
    exact reach_of_opens (DigraphTable.readable_rules ▸ hd) opening length
  have whole : letters ++ marks = letters ++ (marks ++ []) := by simp
  have one : graphemes DigraphTable.rules isMark (letters ++ marks) = _ :=
    graphemes_eq_cons whole (by rw [DigraphTable.extent, reached, Option.getD_some]; omega) marked
      (by simp)
  rw [Text.keys_eq, one, graphemes_nil, List.map_singleton]
  simp [Grapheme.key, Grapheme.phoneme, reached, standIn?_of_opens hd opening length]

/-! ## Several phonemes -/

/-- A letter that no digraph reaches from the start of the text belongs to another phoneme. -/
theorem two_le_length_keys {front rest : Text} {c : Char} (filled : front ≠ [])
    (letter : isMark c = false)
    (short : ∀ d ∈ DigraphTable.rules.readable,
      DigraphTable.opens d.1 (front ++ c :: rest) = true → d.1.length ≤ front.length) :
    2 ≤ (front ++ c :: rest).keys.length := by
  obtain ⟨x, others, rfl⟩ := List.exists_cons_of_ne_nil filled
  have extent : DigraphTable.rules.extent (x :: (others ++ c :: rest)) ≤ others.length := by
    rw [DigraphTable.extent]
    cases reached : DigraphTable.rules.reach (x :: (others ++ c :: rest)) with
    | none => simp
    | some n =>
      obtain ⟨⟨d, hd, opening, rfl⟩, _⟩ := DigraphTable.reach_eq_some_iff.1 reached
      have inside := short d hd opening
      rw [List.length_cons] at inside
      rw [Option.getD_some]
      omega
  -- The letter is left over after the first grapheme.
  have left : c ∈ (others ++ c :: rest).drop
      (DigraphTable.rules.extent (x :: (others ++ c :: rest))) := by
    rw [List.drop_append_of_le_length extent]
    simp
  cases after : afterFirst DigraphTable.rules x (others ++ c :: rest) with
  | nil =>
    have mark := List.dropWhile_eq_nil_iff.1 after c left
    rw [letter] at mark
    exact absurd mark (by simp)
  | cons y later =>
    rw [List.cons_append, Text.keys_eq, graphemes_cons, after, graphemes_cons]
    simp

end SoundLaw
