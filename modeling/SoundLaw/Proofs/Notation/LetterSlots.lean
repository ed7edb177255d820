/-
  SoundLaw.Proofs.Notation.LetterSlots

  Slots of single phonemes, written out and parsed back. A slot of this kind is written as its letter
  with the marks after it. If notation gives none of these characters a meaning of its own
  (`isOrdinary`), then a row of such slots is what a segment is parsed to that prepares to the row
  as it is written (`parse_of_written`).
-/
import SoundLaw.Notation.Form

namespace SoundLaw

/-- Whether rule notation reads a character as a letter or a mark: it is no white space, subscript
    digit, brace, placeholder or sign of another kind of slot. -/
def isOrdinary (c : Char) : Bool :=
  !isBlank c && !isSubscript c && c != '{' && c != '}' && c != placeholder && c != 'V' && c != 'ø'
    && c != '-'

theorem isOrdinary_iff {c : Char} : isOrdinary c = true ↔
    isBlank c = false ∧ isSubscript c = false ∧ c ≠ '{' ∧ c ≠ '}' ∧ c ≠ placeholder ∧ c ≠ 'V' ∧
      c ≠ 'ø' ∧ c ≠ '-' := by
  simp [isOrdinary, and_assoc]

/-- A slot as it is written, its coindex apart. -/
def Slot.written (s : Slot) : Text := s.symbol.text ++ s.mark

/-- A slot of one letter with marks. -/
inductive Slot.IsLetter : Slot → Prop
  | intro {letter : Char} {marks : Text} (plain : isMark letter = false)
      (ordinary : isOrdinary letter = true)
      (marked : ∀ m ∈ marks, isMark m = true ∧ isOrdinary m = true) :
      Slot.IsLetter { symbol := .literal letter, mark := marks }

/-! ## Braces -/

theorem pieces_of_ordinary {t : Text} (ordinary : ∀ c ∈ t, isOrdinary c = true) :
    pieces t = t.map Piece.plain := by
  induction t with
  | nil => rw [pieces, List.map_nil]
  | cons c t ih =>
    obtain ⟨here, later⟩ := List.forall_mem_cons.1 ordinary
    obtain ⟨_, _, notOpening, _⟩ := isOrdinary_iff.1 here
    rw [pieces, List.map_cons, ← ih later]
    split
    · next cut => simp [notOpening] at cut
    · rfl

/-- A text without braces has no groups. -/
theorem groups_of_ordinary {t : Text} (ordinary : ∀ c ∈ t, isOrdinary c = true) :
    (pieces t).any Piece.isStray = false ∧ t.groups = [] ∧ t.withoutGroups = t := by
  rw [Text.groups, Text.withoutGroups, pieces_of_ordinary ordinary]
  refine ⟨?_, ?_, ?_⟩
  · rw [List.any_map, List.any_eq_false]
    intro c hc stray
    obtain ⟨_, _, notOpening, notClosing, _⟩ := isOrdinary_iff.1 (ordinary c hc)
    simp only [Function.comp, Piece.isStray, Bool.or_eq_true, beq_iff_eq] at stray
    rcases stray with opening | closing
    · exact notOpening opening
    · exact notClosing closing
  · rw [List.filterMap_map, List.filterMap_eq_nil_iff]
    exact fun c _ => rfl
  · rw [List.flatMap_map]
    exact List.flatMap_singleton' t

/-! ## Reading -/

section Reading

variable {slot : Slot} {groups : List Text} {t : Text}

theorem readSymbol_of_isOrdinary {c : Char} (h : isOrdinary c = true) :
    readSymbol groups c = .ok (.literal c, groups) := by
  obtain ⟨_, _, _, _, noPlaceholder, noVowel, noDeletion, noWildcard⟩ := isOrdinary_iff.1 h
  unfold readSymbol
  rw [if_neg noPlaceholder, if_neg noVowel, if_neg noWildcard, if_neg noDeletion]

/-- Marks belong to the slot before them. -/
theorem readSlots_marks_append {marks : Text}
    (marked : ∀ m ∈ marks, isMark m = true ∧ isOrdinary m = true) :
    readSlots slot groups (marks ++ t) =
      readSlots { slot with mark := slot.mark ++ marks } groups t := by
  induction marks generalizing slot with
  | nil => simp
  | cons m marks ih =>
    obtain ⟨⟨mark, ordinary⟩, later⟩ := List.forall_mem_cons.1 marked
    obtain ⟨notBlank, _⟩ := isOrdinary_iff.1 ordinary
    rw [List.cons_append, readSlots, if_neg (by simp [notBlank]), if_pos mark, ih later]
    simp

/-- A letter opens the next slot. -/
theorem readSlots_letter_cons {c : Char} (plain : isMark c = false) (ordinary : isOrdinary c = true)
    {slots : List Slot} (following : readSlots { symbol := .literal c } groups t = .ok slots) :
    readSlots slot groups (c :: t) = .ok (slot :: slots) := by
  obtain ⟨notBlank, notSubscript, _⟩ := isOrdinary_iff.1 ordinary
  have noValue : subscriptValue? c = none := by simpa [isSubscript] using notSubscript
  rw [readSlots, if_neg (by simp [notBlank]), if_neg (by simp [plain]), noValue,
    readSymbol_of_isOrdinary ordinary]
  simp only [bind, Except.bind, following]
  rfl

/-- A row of slots that is written after an open slot is read back. -/
theorem readSlots_written {slots : List Slot} (letters : ∀ s ∈ slots, s.IsLetter) :
    readSlots slot groups (slots.flatMap Slot.written) = .ok (slot :: slots) := by
  -- Along the slots: the one that has been read becomes the open slot.
  induction slots generalizing slot with
  | nil => rfl
  | cons s slots ih =>
    obtain ⟨⟨plain, ordinary, marked⟩, later⟩ := List.forall_mem_cons.1 letters
    rw [List.flatMap_cons, Slot.written, Symbol.text, List.append_assoc, List.singleton_append]
    apply readSlots_letter_cons plain ordinary
    rw [readSlots_marks_append marked]
    exact ih later

theorem segmentSlots_written {slots : List Slot} (letters : ∀ s ∈ slots, s.IsLetter) :
    segmentSlots groups (slots.flatMap Slot.written) = .ok slots := by
  cases slots with
  | nil => rfl
  | cons s slots =>
    obtain ⟨@⟨letter, marks, plain, ordinary, marked⟩, later⟩ := List.forall_mem_cons.1 letters
    obtain ⟨notBlank, notSubscript, _⟩ := isOrdinary_iff.1 ordinary
    -- The first letter is found where it stands, and opens the first slot.
    have opened : (letter :: (marks ++ slots.flatMap Slot.written)).dropWhile isBlank =
        letter :: (marks ++ slots.flatMap Slot.written) := by
      simp [notBlank]
    rw [List.flatMap_cons, Slot.written, Symbol.text, List.append_assoc, List.singleton_append,
      segmentSlots, opened]
    simp only [plain, notSubscript, Bool.or_self, Bool.false_eq_true, if_false,
      readSymbol_of_isOrdinary ordinary, bind, Except.bind]
    rw [readSlots_marks_append marked]
    exact readSlots_written later

end Reading

/-! ## Parsing -/

theorem isOrdinary_of_mem_written {slots : List Slot} (letters : ∀ s ∈ slots, s.IsLetter) :
    ∀ c ∈ slots.flatMap Slot.written, isOrdinary c = true := by
  intro c hc
  obtain ⟨s, member, hc⟩ := List.mem_flatMap.1 hc
  obtain ⟨_, ordinary, marked⟩ := letters s member
  rcases List.mem_append.1 hc with letter | mark
  · rwa [List.mem_singleton.1 letter]
  · exact (marked c mark).2

/-- A segment that prepares to a row of letters with marks is parsed to these. -/
theorem parse_of_written {segment : Text} {slots : List Slot} (letters : ∀ s ∈ slots, s.IsLetter)
    (prepared : segment.prepared = slots.flatMap Slot.written) :
    Form.parse segment = .ok { slots, groups := [] } := by
  obtain ⟨balanced, noGroups, whole⟩ := groups_of_ordinary (isOrdinary_of_mem_written letters)
  rw [Form.parse, prepared]
  simp only [balanced, noGroups, whole, segmentSlots_written letters, bind, Except.bind]
  rfl

end SoundLaw
