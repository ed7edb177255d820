/-
  SoundLaw.Proofs.Notation.Options

  The options of a notation, written and split again. Options are written between bars, each with
  white space around it, and the two halves go into square brackets on both sides of the arrow
  (`WrittenHalf`). Splitting takes away exactly what is written around the options: the white space
  and the pair of brackets of each half, and no bracket of an option itself. A notation that does
  not have one arrow, or has more bars on one side, is faulty (`splitOptions_undoes_writing`).
-/
import SoundLaw.Proofs.Notation.Halves

namespace SoundLaw

/-! ## White space around a text -/

/-- White space to put around a text. -/
structure Padding where
  before : Text := []
  after : Text := []
  blankBefore : ∀ c ∈ before, isBlank c = true := by exact List.all_eq_true.1 rfl
  blankAfter : ∀ c ∈ after, isBlank c = true := by exact List.all_eq_true.1 rfl

/-- A text with white space around it. -/
def Padding.around (p : Padding) (t : Text) : Text := p.before ++ t ++ p.after

theorem Padding.mem_around_iff {p : Padding} {t : Text} {c : Char} (visible : isBlank c = false) :
    c ∈ p.around t ↔ c ∈ t := by
  have outside : ∀ blanks : Text, (∀ d ∈ blanks, isBlank d = true) → c ∉ blanks := by
    intro blanks blank inside
    rw [blank c inside] at visible
    exact absurd visible (by simp)
  simp [Padding.around, outside _ p.blankBefore, outside _ p.blankAfter]

theorem Text.strip_around (p : Padding) (t : Text) : (p.around t).strip = t.strip := by
  have start : (p.around t).dropWhile isBlank = (t ++ p.after).dropWhile isBlank := by
    rw [Padding.around, List.append_assoc, List.dropWhile_append_of_pos p.blankBefore]
  rw [Text.strip, Text.strip, start, List.dropWhile_append]
  split
  · next empty =>
    -- There is nothing but white space.
    rw [List.isEmpty_iff] at empty
    have blank := List.dropWhile_eq_nil_iff.2 p.blankAfter
    rw [empty, blank]
  · have ended : ∀ c ∈ p.after.reverse, isBlank c = true :=
      fun c hc => p.blankAfter c (List.mem_reverse.1 hc)
    rw [Text.stripEnd, Text.stripEnd, Text.dropEndWhile, Text.dropEndWhile, List.reverse_append,
      List.dropWhile_append_of_pos ended]

theorem Text.stripBrackets_around (p : Padding) (t : Text) :
    (p.around t).stripBrackets = t.stripBrackets := by
  rw [Text.stripBrackets, Text.strip_around, ← Text.stripBrackets]

/-! ## Splitting at the ends -/

section

variable {separator : Char} {a : Text} (absent : separator ∉ a) (t : Text)

include absent

/-- What comes before a text goes to its first part. -/
theorem Text.exists_split_append_left : ∃ first parts, t.split separator = first :: parts ∧
    (a ++ t).split separator = (a ++ first) :: parts := by
  obtain ⟨first, parts, split⟩ := List.exists_cons_of_ne_nil (Text.split_ne_nil separator t)
  refine ⟨first, parts, split, ?_⟩
  induction a with
  | nil => exact split
  | cons c a ih =>
    rw [List.mem_cons, not_or] at absent
    rw [List.cons_append, Text.split, if_neg (Ne.symm absent.1), ih absent.2]
    rfl

/-- What comes after a text goes to its last part. -/
theorem Text.exists_split_append_right : ∃ parts last, t.split separator = parts ++ [last] ∧
    (t ++ a).split separator = parts ++ [last ++ a] := by
  induction t with
  | nil => exact ⟨[], [], rfl, Text.split_of_notMem absent⟩
  | cons c t ih =>
    obtain ⟨parts, last, split, split'⟩ := ih
    rw [List.cons_append, Text.split, Text.split, split, split']
    by_cases here : c = separator
    · exact ⟨[] :: parts, last, by simp [here], by simp [here]⟩
    · rw [if_neg here, if_neg here]
      cases parts with
      | nil => exact ⟨[], c :: last, rfl, rfl⟩
      | cons part parts => exact ⟨(c :: part) :: parts, last, rfl, rfl⟩

end

/-- White space around a half does not matter to its options. -/
theorem Text.options_around (p : Padding) (half : Text) :
    (p.around half).options = half.options := by
  have noBar : ∀ blanks : Text, (∀ c ∈ blanks, isBlank c = true) → '|' ∉ blanks :=
    fun blanks blank inside => absurd (blank '|' inside) (by decide)
  obtain ⟨parts, last, split, padded⟩ :=
    Text.exists_split_append_right (noBar _ p.blankAfter) (p.before ++ half)
  obtain ⟨first, others, whole, begun⟩ :=
    Text.exists_split_append_left (noBar _ p.blankBefore) half
  have atEnd := Text.stripBrackets_around { after := p.after, blankAfter := p.blankAfter } last
  have atStart :=
    Text.stripBrackets_around { before := p.before, blankBefore := p.blankBefore } first
  rw [Padding.around, List.nil_append] at atEnd
  rw [Padding.around, List.append_nil] at atStart
  calc (p.around half).options
      = (parts ++ [last]).map Text.stripBrackets := by
        rw [Text.options, Padding.around, padded, List.map_append, List.map_append,
          List.map_singleton, List.map_singleton, atEnd]
    _ = (first :: others).map Text.stripBrackets := by
        rw [← split, begun, List.map_cons, List.map_cons, atStart]
    _ = half.options := by rw [Text.options, whole]

/-! ## Stripping -/

/-- What stripping takes away from a text is white space. -/
theorem Text.exists_around_strip (t : Text) : ∃ p : Padding, t = p.around t.strip := by
  refine ⟨⟨t.takeWhile isBlank, (t.dropWhile isBlank).rtakeWhile isBlank, ?_, ?_⟩, ?_⟩
  · exact fun c hc => List.mem_takeWhile_imp hc
  · exact fun c hc => List.mem_rtakeWhile_imp hc
  · rw [Padding.around, Text.strip, Text.stripEnd_eq, List.append_assoc,
      List.rdropWhile_append_rtakeWhile, List.takeWhile_append_dropWhile]

theorem Text.options_strip (half : Text) : half.strip.options = half.options := by
  obtain ⟨p, whole⟩ := half.exists_around_strip
  conv_rhs => rw [whole, Text.options_around]

/-- A character that is neither white space nor a bracket is as often in a text with its brackets as
    without. -/
theorem Text.count_stripBrackets {c : Char} (visible : isBlank c = false)
    (noBracket : c ≠ '[' ∧ c ≠ ']') (t : Text) : t.stripBrackets.count c = t.count c := by
  have stripped : ∀ u : Text, u.strip.count c = u.count c := by
    intro u
    obtain ⟨p, whole⟩ := u.exists_around_strip
    have outside : ∀ blanks : Text, (∀ d ∈ blanks, isBlank d = true) → blanks.count c = 0 := by
      intro blanks blank
      refine List.count_eq_zero.2 fun inside => ?_
      rw [blank c inside] at visible
      exact absurd visible (by simp)
    conv_rhs => rw [whole]
    rw [Padding.around, List.count_append, List.count_append, outside _ p.blankBefore,
      outside _ p.blankAfter, Nat.zero_add, Nat.add_zero]
  have unbracketed : ∀ u : Text, u.unbracketed.count c = u.count c := by
    intro u
    unfold Text.unbracketed
    split
    · next u =>
      rw [List.count_cons_of_ne (Ne.symm noBracket.1)]
      split
      · next closed =>
        conv_rhs => rw [← List.dropLast_append_getLast? ']' closed]
        rw [List.count_append, List.count_singleton]
        simp [Ne.symm noBracket.2]
      · exact List.count_cons_of_ne (Ne.symm noBracket.1)
    · rfl
  rw [Text.stripBrackets, stripped, unbracketed, stripped]

/-! ## Written halves -/

/-- A text that can be an option: it has no arrow and no bar, no white space around it, and not both
    a bracket at its start and one at its end. -/
structure Text.IsOption (t : Text) : Prop where
  noArrow : '>' ∉ t
  noBar : '|' ∉ t
  begins : ∀ c ∈ t.head?, isBlank c = false
  ends : ∀ c ∈ t.getLast?, isBlank c = false
  bare : ¬(t.head? = some '[' ∧ t.getLast? = some ']')

instance (t : Text) : Decidable t.IsOption :=
  decidable_of_iff ('>' ∉ t ∧ '|' ∉ t ∧ t.head?.any isBlank = false ∧
      t.getLast?.any isBlank = false ∧ ¬(t.head? = some '[' ∧ t.getLast? = some ']'))
    ⟨fun ⟨noArrow, noBar, begins, ends, bare⟩ =>
      ⟨noArrow, noBar, (Option.any_eq_false _ _).1 begins, (Option.any_eq_false _ _).1 ends, bare⟩,
      fun h => ⟨h.noArrow, h.noBar, (Option.any_eq_false _ _).2 h.begins,
        (Option.any_eq_false _ _).2 h.ends, h.bare⟩⟩

/-- An option is what is left of it when white space and brackets are taken away. -/
theorem Text.IsOption.stripBrackets_eq {t : Text} (h : t.IsOption) : t.stripBrackets = t := by
  have strip : t.strip = t := by
    have start : t.dropWhile isBlank = t := by
      cases t with
      | nil => rfl
      | cons c t => exact List.dropWhile_cons_of_neg (by simp [h.begins c rfl])
    rw [Text.strip, start, Text.stripEnd_eq, List.rdropWhile_eq_self_iff]
    intro filled
    rw [h.ends _ (List.getLast?_eq_some_getLast filled)]
    exact Bool.false_ne_true
  have unbracketed : t.unbracketed = t := by
    unfold Text.unbracketed
    split
    · next t =>
      refine if_neg fun closed => h.bare ⟨rfl, ?_⟩
      rw [List.getLast?_cons, closed]
      rfl
    · rfl
  rw [Text.stripBrackets, strip, unbracketed, strip]

/-- A half of a notation as it is written: options, each in white space, and the white space around
    the brackets. -/
structure WrittenHalf where
  options : List (Padding × Text)
  outer : Padding := {}

namespace WrittenHalf

/-- The options without the white space around them. -/
def segments (h : WrittenHalf) : List Text := h.options.map (·.2)

/-- What is written between the brackets: the options between bars. -/
def inner (h : WrittenHalf) : Text := ['|'].intercalate (h.options.map fun o => o.1.around o.2)

/-- A half as it is written. -/
def text (h : WrittenHalf) : Text := h.outer.around ('[' :: h.inner ++ [']'])

variable {h : WrittenHalf} (each : ∀ segment ∈ h.segments, segment.IsOption)

include each

theorem options_inner (filled : h.options ≠ []) : h.inner.options = h.segments := by
  have noBar : ∀ part ∈ h.options.map (fun o => o.1.around o.2), '|' ∉ part := by
    intro part listed
    obtain ⟨o, member, rfl⟩ := List.mem_map.1 listed
    rw [Padding.mem_around_iff (by decide)]
    exact (each o.2 (List.mem_map_of_mem member)).noBar
  rw [Text.options, WrittenHalf.inner, Text.split_intercalate (by simpa using filled) noBar,
    List.map_map, WrittenHalf.segments]
  refine List.map_congr_left fun o member => ?_
  rw [Function.comp_apply, Text.stripBrackets_around]
  exact (each o.2 (List.mem_map_of_mem member)).stripBrackets_eq

theorem arrow_notMem_text : '>' ∉ h.text := by
  rw [WrittenHalf.text, Padding.mem_around_iff (by decide), List.mem_append, List.mem_cons,
    List.mem_singleton]
  rintro ((opening | inside) | closing)
  · exact absurd opening (by decide)
  · rcases Text.mem_intercalate inside with bar | ⟨part, listed, inside⟩
    · exact absurd bar (by decide)
    · obtain ⟨o, member, rfl⟩ := List.mem_map.1 listed
      rw [Padding.mem_around_iff (by decide)] at inside
      exact (each o.2 (List.mem_map_of_mem member)).noArrow inside
  · exact absurd closing (by decide)

/-- The options of a written half are read back. -/
theorem options_text (filled : h.options ≠ []) : h.text.stripBrackets.options = h.segments := by
  have bracketed := Text.stripBrackets_bracketed [] [] (by simp) (by simp) h.inner
  rw [List.nil_append] at bracketed
  rw [WrittenHalf.text, Text.stripBrackets_around, bracketed, Text.options_strip,
    options_inner each filled]

end WrittenHalf

/-! ## Notations -/

theorem splitOptions_of_splitHalves {notated old new : Text}
    (halves : splitHalves notated = .ok (old, new)) :
    splitOptions notated =
      if old.options.length ≠ new.options.length then
        .error (.malformed (.options old.options.length new.options.length notated))
      else .ok (old.options, new.options) := by
  rw [splitOptions, halves]
  rfl

/-- Splitting a notation undoes writing it: the options of two halves that have as many come back as
    they are. A notation that has no arrow or several ones, or different numbers of bars on its two
    sides, is faulty. -/
theorem splitOptions_undoes_writing :
    (∀ old new : WrittenHalf, old.options ≠ [] → old.options.length = new.options.length →
      (∀ segment ∈ old.segments ++ new.segments, segment.IsOption) →
      splitOptions (old.text ++ '>' :: new.text) = .ok (old.segments, new.segments)) ∧
      (∀ notated : Text, notated.count '>' ≠ 1 →
        splitOptions notated = .error (.malformed (.arrows notated))) ∧
      ∀ old new : Text, '>' ∉ old → '>' ∉ new → old.count '|' ≠ new.count '|' →
        splitOptions (old ++ '>' :: new) = .error (.malformed (.options (old.count '|' + 1)
          (new.count '|' + 1) (old ++ '>' :: new))) := by
  refine ⟨fun old new filled sizes each => ?_, fun notated arrows => ?_,
    fun old new oldPlain newPlain bars => ?_⟩
  · obtain ⟨oldEach, newEach⟩ := List.forall_mem_append.1 each
    have newFilled : new.options ≠ [] :=
      List.ne_nil_of_length_pos (sizes ▸ List.length_pos_iff.2 filled)
    have halves := splitHalves_arrow (WrittenHalf.arrow_notMem_text oldEach)
      (WrittenHalf.arrow_notMem_text newEach)
    have same : old.segments.length = new.segments.length := by
      rw [WrittenHalf.segments, WrittenHalf.segments, List.length_map, List.length_map, sizes]
    rw [splitOptions_of_splitHalves halves, WrittenHalf.options_text oldEach filled,
      WrittenHalf.options_text newEach newFilled, if_neg (not_not_intro same)]
  · rw [splitOptions, splitHalves_of_count_ne arrows]
    rfl
  · have kept {half : Text} : half.stripBrackets.options.length = half.count '|' + 1 := by
      rw [Text.length_options, Text.count_stripBrackets (by decide) (by decide)]
    rw [splitOptions_of_splitHalves (splitHalves_arrow oldPlain newPlain), kept, kept,
      if_pos (by simpa using bars)]

/-- Options with a bracket on one side, or with nothing in them. -/
def raggedHalf : WrittenHalf where
  options := [({ before := [' '] }, ['k', ']']), ({}, []),
    ({ before := ['\t'], after := ['\n'] }, ['[', 'V'])]
  outer := { before := [' '], after := [' ', ' '] }

-- The brackets of the options stay, and those around the half do not.
theorem splitOptions_undoes_writing_of_raggedHalf :
    raggedHalf.text = [' ', '[', ' ', 'k', ']', '|', '|', '\t', '[', 'V', '\n', ']', ' ', ' '] ∧
      splitOptions (raggedHalf.text ++ '>' :: raggedHalf.text) =
        .ok ([['k', ']'], [], ['[', 'V']], [['k', ']'], [], ['[', 'V']]) ∧
      splitOptions ['a', '>', 'b', '>'] = .error (.malformed (.arrows ['a', '>', 'b', '>'])) ∧
      splitOptions ['[', 'a', '|', ']', '>', 'b'] =
        .error (.malformed (.options 2 1 ['[', 'a', '|', ']', '>', 'b'])) := by
  obtain ⟨undoes, arrows, bars⟩ := splitOptions_undoes_writing
  exact ⟨by decide, undoes raggedHalf raggedHalf (by decide) rfl (by decide), arrows _ (by decide),
    bars ['[', 'a', '|', ']'] ['b'] (by decide) (by decide) (by decide)⟩

end SoundLaw
