/-
  SoundLaw.Proofs.Variant.SingleSlot

  Rules that replace one slot by another one (`compile_of_slots`). A slot can be a letter with marks,
  which become the marks of the slot (`parse_letter`), or a group of such letters with spaces between
  them, where the marks stay with the alternatives (`parse_group`). It makes no difference in which
  normal form the letters are written.
-/
import SoundLaw.Proofs.Match.SingleStep
import SoundLaw.Proofs.Notation.Halves
import SoundLaw.Proofs.Notation.Writing
import SoundLaw.Proofs.Variant.Alignment

namespace SoundLaw

/-! ## Letters with marks -/

/-- A letter, perhaps with marks, that no part of rule notation reads as a sign. -/
structure Text.IsMarkedLetter (t : Text) : Prop where
  alternative : t.nfd.IsAlternative
  apart : ∀ c ∈ ['>', '|', '[', ']'], c ∉ t.nfd

instance (t : Text) : Decidable t.IsMarkedLetter :=
  decidable_of_iff
    (t.nfd.IsAlternative ∧ (['>', '|', '[', ']'].all fun c => !t.nfd.contains c) = true)
    ⟨fun h => ⟨h.1, by simpa [List.all_eq_true] using h.2⟩,
      fun h => ⟨h.alternative, by simpa [List.all_eq_true] using h.apart⟩⟩

/-- The parts of a letter with marks. -/
structure Text.HasParts (t : Text) (c : Char) (marks : Text) : Prop where
  whole : t.nfd = c :: marks
  base : t.base = [c]
  own : t.marks = marks
  sign : IsPhonemeSign c
  follow : MarksFollow c marks

theorem Text.IsMarkedLetter.exists_parts {t : Text} (h : t.IsMarkedLetter) :
    ∃ c marks, t.HasParts c marks := by
  obtain ⟨c, marks, nfd, sign, follow⟩ := h.alternative.exists_cons
  obtain ⟨base, own⟩ := base_eq_and_marks_eq nfd sign.letter follow.marked
  exact ⟨c, marks, nfd, base, own, sign, follow⟩

/-- No character of a letter with marks is white space or a sign. -/
theorem Text.IsMarkedLetter.plain_of_mem {t : Text} (h : t.IsMarkedLetter) {c : Char}
    (hc : c ∈ t) : isBlank c = false ∧ c ∉ ['>', '|', '[', ']', '-'] := by
  obtain ⟨letter, marks, parts⟩ := h.exists_parts
  have ordinary : ∀ d ∈ decompose c, isOrdinary d = true := by
    intro d hd
    have member : d ∈ t.nfd := mem_nfd.2 ⟨c, hc, hd⟩
    rw [parts.whole] at member
    rcases List.mem_cons.1 member with rfl | mark
    · exact parts.sign.ordinary
    · exact parts.follow.isOrdinary_of_mem d mark
  refine ⟨?_, fun sign => ?_⟩
  · rw [← Bool.not_eq_true]
    intro blank
    obtain ⟨_, d, whole, white⟩ := not_isMark_and_exists_decompose_of_isBlank blank
    have visible := (isOrdinary_iff.1 (ordinary d (by simp [whole]))).1
    rw [white] at visible
    exact absurd visible (by simp)
  · have final : (['>', '|', '[', ']', '-'].all fun c => decompose c == [c]) = true := by
      decide +kernel
    have whole := beq_iff_eq.1 (List.all_eq_true.1 final c sign)
    have own : c ∈ decompose c := whole ▸ List.mem_cons_self
    have member : c ∈ t.nfd := mem_nfd.2 ⟨c, hc, own⟩
    have notWildcard := (isOrdinary_iff.1 (ordinary c own)).2.2.2.2.2.2.2
    have others : c ∈ ['>', '|', '[', ']'] := by simpa [notWildcard] using sign
    exact h.apart c others member

/-! ## Parsing -/

theorem nfd_joinWithSpaces (ts : List Text) :
    (joinWithSpaces ts).nfd = joinWithSpaces (ts.map Text.nfd) := by
  cases ts with
  | nil => rfl
  | cons t ts =>
    have space : isMark ' ' = false ∧ decompose ' ' = [' '] := by decide +kernel
    have lettered : ∀ u ∈ ts, ∀ c ∈ (' ' :: u).head?, isMark c = false :=
      fun _ _ c hc => Option.mem_some_iff.1 hc ▸ space.1
    rw [joinWithSpaces_cons, Text.nfd_append (isMark_head?_flatMap lettered), nfd_flatMap lettered,
      List.map_cons, joinWithSpaces_cons, List.flatMap_map]
    exact congrArg (t.nfd ++ ·)
      (List.flatMap_congr fun u _ => nfd_cons_of_final space.2 space.1 u)

/-- A segment is parsed to the slot that it is written with when it is decomposed. -/
theorem parse_of_nfd_eq {w : WrittenSlot} (writable : w.IsWritable) {segment : Text}
    (same : segment.nfd = w.text) :
    Form.parse segment =
      .ok { slots := [w.slot], groups := w.slot.symbol.content?.toList } := by
  have each : ∀ u ∈ [w], u.IsWritable := List.forall_mem_singleton.2 writable
  have single : joinWithSpaces ([w].map WrittenSlot.text) = w.text := by
    rw [List.map_singleton, joinWithSpaces_cons, List.flatMap_nil, List.append_nil]
  have prepared : segment.prepared = joinWithSpaces ([w].map WrittenSlot.text) := by
    rw [← (isSettled_of_writable each).prepared_eq, single, Text.prepared, Text.prepared,
      ← Text.nfc_nfd segment, same]
  rw [parse_of_prepared each prepared, filterMap_content?_cons, List.filterMap_nil, List.append_nil]
  rfl

/-- A letter by itself is a slot of its letter, with its marks as those of the slot. -/
theorem parse_letter {t : Text} {c : Char} {marks : Text} (parts : t.HasParts c marks) :
    Form.parse t = .ok { slots := [{ symbol := .literal c, mark := marks }], groups := [] } := by
  have writable : WrittenSlot.IsWritable { sign := .letter c, mark := marks, coindex := none } :=
    ⟨parts.sign, parts.follow⟩
  refine parse_of_nfd_eq writable ?_
  rw [parts.whole, WrittenSlot.text, WrittenSlot.attached]
  simp [Sign.opening, Sign.last]

/-! ## Halves -/

/-- A segment that stands between square brackets as it is, and does not tie the rule to an end of the
    word. -/
structure Text.IsPlainHalf (half : Text) : Prop where
  strip : half.strip = half
  unbracketed : half.unbracketed = half
  arrow : '>' ∉ half
  bar : '|' ∉ half
  leading : half.head? ≠ some '-'
  trailing : half.getLast? ≠ some '-'

theorem Text.IsPlainHalf.stripBrackets_eq {half : Text} (h : half.IsPlainHalf) :
    half.stripBrackets = half := by
  rw [Text.stripBrackets, h.strip, h.unbracketed, h.strip]

theorem Text.IsMarkedLetter.isPlainHalf {t : Text} (h : t.IsMarkedLetter) : t.IsPlainHalf := by
  have other : ∀ {sign : Char}, sign ∈ ['>', '|', '[', ']', '-'] → sign ∉ t :=
    fun listed inside => (h.plain_of_mem inside).2 listed
  have visible : ∀ c ∈ t, ¬isBlank c = true := fun c hc => by simp [(h.plain_of_mem hc).1]
  refine ⟨?_, ?_, other (by simp), other (by simp), fun first => ?_, fun last => ?_⟩
  · have start : t.dropWhile isBlank = t :=
      List.dropWhile_eq_self_iff.2 fun filled => visible _ (List.getElem_mem filled)
    rw [Text.strip, start]
    exact List.rdropWhile_eq_self_iff.2 fun filled => visible _ (List.getLast_mem filled)
  · rw [Text.unbracketed.eq_def]
    split
    · exact absurd List.mem_cons_self (other (by simp))
    · rfl
  · exact other (by simp) (List.mem_of_mem_head? first)
  · exact other (by simp) (List.mem_of_getLast? last)

/-- A group of alternatives with spaces between them. -/
def groupOf (alternatives : List Text) : Text := '{' :: joinWithSpaces alternatives ++ ['}']

theorem isPlainHalf_groupOf {alternatives : List Text}
    (letters : ∀ a ∈ alternatives, a.IsMarkedLetter) : (groupOf alternatives).IsPlainHalf := by
  have other : ∀ {sign : Char}, sign ∈ ['>', '|'] → sign ∉ groupOf alternatives := by
    intro sign listed inside
    rcases List.mem_append.1 inside with inside | closing
    · rcases List.mem_cons.1 inside with rfl | inside
      · exact absurd listed (by decide)
      · rcases Text.mem_intercalate inside with rfl | ⟨a, ha, member⟩
        · exact absurd listed (by decide)
        · refine ((letters a ha).plain_of_mem member).2 ?_
          exact List.mem_append_left ['[', ']', '-'] listed
    · rw [List.mem_singleton.1 closing] at listed
      exact absurd listed (by decide)
  refine ⟨?_, rfl, other (by simp), other (by simp), by simp [groupOf], ?_⟩
  case refine_2 =>
    rw [groupOf, List.getLast?_concat]
    decide
  have opens : isBlank '{' = false := by decide
  have closes : isBlank '}' = false := by decide
  have nothing : ∀ c ∈ ([] : Text), isBlank c := by simp
  simpa [groupOf] using
    Text.strip_of_visible opens closes nothing nothing (joinWithSpaces alternatives)

/-- A group is a slot of its alternatives, decomposed. -/
theorem parse_group {alternatives : List Text} (several : 2 ≤ alternatives.length)
    (letters : ∀ a ∈ alternatives, a.IsMarkedLetter) :
    Form.parse (groupOf alternatives) = .ok {
      slots := [{ symbol := .group (joinWithSpaces (alternatives.map Text.nfd)) }]
      groups := [joinWithSpaces (alternatives.map Text.nfd)] } := by
  have writable : WrittenSlot.IsWritable
      { sign := .choice (alternatives.map Text.nfd), mark := [], coindex := none } := by
    have unmarked : MarksFollow '}' [] := by decide +kernel
    refine ⟨⟨by rwa [List.length_map], fun a ha => ?_⟩, unmarked⟩
    obtain ⟨t, ht, rfl⟩ := List.mem_map.1 ha
    exact (letters t ht).alternative
  have opening : isMark '{' = false ∧ decompose '{' = ['{'] := by decide +kernel
  have closing : isMark '}' = false ∧ decompose '}' = ['}'] := by decide +kernel
  have ends : ∀ c ∈ ['}'].head?, isMark c = false :=
    fun c hc => Option.mem_some_iff.1 hc ▸ closing.1
  refine parse_of_nfd_eq writable ?_
  rw [groupOf, Text.nfd_append ends, nfd_cons_of_final opening.2 opening.1, nfd_joinWithSpaces,
    nfd_cons_of_final closing.2 closing.1]
  rfl

/-- The notation of a rule that replaces one segment by another one. -/
def ruleBetween (old new : Text) : Text :=
  '[' :: old ++ [']', ' '] ++ '>' :: (' ' :: '[' :: new ++ [']'])

/-- Two segments of one slot each make a rule of one step. -/
theorem compile_of_slots {old new : Text} (oldPlain : old.IsPlainHalf) (newPlain : new.IsPlainHalf)
    {s t : Slot} {oldGroups newGroups : List Text}
    (oldParsed : Form.parse old = .ok { slots := [s], groups := oldGroups })
    (newParsed : Form.parse new = .ok { slots := [t], groups := newGroups })
    (pairs : s.PairsWith [s] t) :
    compile (ruleBetween old new) = .ok [(Step.between s t).variant] := by
  have halves : splitHalves (ruleBetween old new) = .ok (old, new) := by
    rw [ruleBetween, splitHalves_bracketed oldPlain.arrow newPlain.arrow, oldPlain.strip,
      newPlain.strip]
  have options {half : Text} (plain : half.IsPlainHalf) : half.options = [half] := by
    rw [Text.options, Text.split_of_notMem plain.bar, List.map_singleton, plain.stripBrackets_eq]
  have both : splitOptions (ruleBetween old new) = .ok ([old], [new]) := by
    simp [splitOptions, halves, options oldPlain, options newPlain, bind, Except.bind]
  have position : Position.ofHalf old = .any := by
    simp [Position.ofHalf, oldPlain.stripBrackets_eq, oldPlain.leading, oldPlain.trailing]
  have made : Variant.ofForms .any { slots := [s], groups := oldGroups }
      { slots := [t], groups := newGroups } = .ok (Step.between s t).variant := by
    rcases ofForms_cases .any { slots := [s], groups := oldGroups }
      { slots := [t], groups := newGroups } with ⟨made, _⟩ | ⟨_, unaligned⟩
    · exact made
    · refine absurd ⟨rfl, fun pair hp => ?_⟩ unaligned
      obtain rfl : pair = (s, t) := by simpa using hp
      exact pairs
  rw [compile, halves, both]
  simp only [bind, Except.bind, List.zip_cons_cons, List.zip_nil_left, List.mapM_cons, List.mapM_nil,
    Variant.ofSegments, oldParsed, newParsed, position, made]
  rfl

/-! ## Rules -/

/-- The step from a group to another one. -/
def Step.ofGroups (old new : List Text) : Step where
  find := old.map fun a => Text.literal a.nfd
  replace := new.map fun a => Text.literal a.nfd

/-- The step from a letter with marks to another one. -/
def Step.ofLetters (old new : Text) : Step where
  find := [Text.literal old.base]
  replace := [Text.literal new.base]
  oldMark := old.marks
  newMark := new.marks

theorem compile_groups {old new : List Text} (several : 2 ≤ old.length)
    (sizes : new.length = old.length) (oldLetters : ∀ a ∈ old, a.IsMarkedLetter)
    (newLetters : ∀ a ∈ new, a.IsMarkedLetter) :
    compile (ruleBetween (groupOf old) (groupOf new)) = .ok [(Step.ofGroups old new).variant] := by
  have literals {alternatives : List Text} (letters : ∀ a ∈ alternatives, a.IsMarkedLetter) :
      (Symbol.group (joinWithSpaces (alternatives.map Text.nfd))).literals =
        alternatives.map fun a => Text.literal a.nfd := by
    rw [Symbol.literals, alternatives_joinWithSpaces, List.map_map]
    · rfl
    · intro a ha
      obtain ⟨t, ht, rfl⟩ := List.mem_map.1 ha
      exact (letters t ht).alternative
  rw [compile_of_slots (isPlainHalf_groupOf oldLetters) (isPlainHalf_groupOf newLetters)
    (parse_group several oldLetters) (parse_group (sizes ▸ several) newLetters)]
  · rw [Step.between, if_neg (by simp), literals oldLetters, literals newLetters]
    rfl
  · refine ⟨by simp, by simp, by simp, by simp, fun _ => .inr ?_⟩
    rw [literals oldLetters, literals newLetters, List.length_map, List.length_map, sizes]

theorem compile_letters {old new : Text} (oldLetter : old.IsMarkedLetter)
    (newLetter : new.IsMarkedLetter) :
    compile (ruleBetween old new) = .ok [(Step.ofLetters old new).variant] := by
  obtain ⟨c, _, oldParts⟩ := oldLetter.exists_parts
  obtain ⟨d, _, newParts⟩ := newLetter.exists_parts
  rw [compile_of_slots oldLetter.isPlainHalf newLetter.isPlainHalf (parse_letter oldParts)
    (parse_letter newParts)]
  · rw [Step.between, if_neg (by simp), Step.ofLetters, oldParts.base, newParts.base, oldParts.own,
      newParts.own]
    rfl
  · exact ⟨by simp, by simp, by simp, by simp, fun _ => .inl (Nat.le_refl 1)⟩

end SoundLaw
