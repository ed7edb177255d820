/-
  SoundLaw.Proofs.Notation.Brackets

  Which braces a segment may have. A segment is refused for its braces exactly if a closing brace has
  no opening one before it, or an opening one no closing one after it (`parse_braces`). An opening
  brace that stands inside a group is no fault of this kind: `{a{b}` is parsed, and its second brace
  is one of the phonemes of the group. This is so wherever braces are opened twice and closed once;
  in all other segments that are parsed, no slot has a brace in it.
-/
import SoundLaw.Proofs.Notation.Parsing
import SoundLaw.Proofs.Spelling.Unfolded

namespace SoundLaw

/-! ## Braces that pair up -/

/-- Whether a character is a brace. -/
def isBrace (c : Char) : Bool := c == '{' || c == '}'

/-- How the braces of a text pair up, where an opening brace may be closed together with another
    one. -/
structure Text.PairsUp (t : Text) : Prop where
  /-- Between a closing brace and the closing one before it, or the start, a brace is opened. -/
  opened : ∀ before after, t = before ++ '}' :: after →
    ∃ front content, before = front ++ '{' :: content ∧ '}' ∉ content
  /-- After an opening brace, a brace is closed. -/
  closed : ∀ before after, t = before ++ '{' :: after → '}' ∈ after

/-- Every opening brace is closed before the next one. -/
def Text.ClosesEach (t : Text) : Prop :=
  ∀ before after, t = before ++ '{' :: after → '}' ∈ after.takeWhile (· != '{')

/-- A text without its other characters pairs up as it does with them. -/
theorem pairsUp_filter_isBrace (t : Text) : Text.PairsUp (t.filter isBrace) ↔ t.PairsUp := by
  constructor
  · intro h
    constructor
    · rintro before after rfl
      obtain ⟨front, content, split, closed⟩ := h.opened (before.filter isBrace)
        (after.filter isBrace) (by simp [List.filter_append, isBrace])
      obtain ⟨x, y, rfl, _, inside⟩ := List.filter_eq_append_iff.1 split
      obtain ⟨y, z, rfl, _, _, rfl⟩ := List.filter_eq_cons_iff.1 inside
      refine ⟨x ++ y, z, by simp, fun hz => closed ?_⟩
      exact List.mem_filter.2 ⟨hz, rfl⟩
    · rintro before after rfl
      have closing := h.closed (before.filter isBrace) (after.filter isBrace)
        (by simp [List.filter_append, isBrace])
      exact List.mem_of_mem_filter closing
  · intro h
    constructor
    · intro before after split
      obtain ⟨x, y, rfl, rfl, inside⟩ := List.filter_eq_append_iff.1 split
      obtain ⟨y, z, rfl, others, _, rfl⟩ := List.filter_eq_cons_iff.1 inside
      obtain ⟨front, content, whole, closed⟩ := h.opened (x ++ y) z (by simp)
      have none : y.filter isBrace = [] := List.filter_eq_nil_iff.2 others
      refine ⟨front.filter isBrace, content.filter isBrace, ?_, ?_⟩
      · rw [← List.append_nil (x.filter isBrace), ← none, ← List.filter_append, whole,
          List.filter_append]
        rfl
      · exact fun hc => closed (List.mem_of_mem_filter hc)
    · intro before after split
      obtain ⟨x, y, rfl, rfl, inside⟩ := List.filter_eq_append_iff.1 split
      obtain ⟨y, z, rfl, _, _, rfl⟩ := List.filter_eq_cons_iff.1 inside
      exact List.mem_filter.2 ⟨h.closed (x ++ y) z (by simp), rfl⟩

/-- What follows a group pairs up if the whole does. -/
theorem Text.PairsUp.rest {content t : Text} (h : Text.PairsUp ('{' :: content ++ '}' :: t)) :
    t.PairsUp where
  opened := by
    rintro before after rfl
    obtain ⟨front, inside, split, closed⟩ :=
      h.opened ('{' :: content ++ '}' :: before) after (by simp)
    -- The brace that is opened last before this one stands behind the group.
    rcases cases_of_append_cons_eq split with ⟨x, _, rfl⟩ | ⟨_, same, _⟩ | ⟨x, _, rfl⟩
    · exact absurd (List.mem_append_right x List.mem_cons_self) closed
    · exact absurd same (by decide)
    · exact ⟨x, inside, rfl, closed⟩
  closed := by
    rintro before after rfl
    exact h.closed ('{' :: content ++ '}' :: before) after (by simp)

/-- What follows a plain character pairs up if the whole does. -/
theorem Text.PairsUp.tail {c : Char} {t : Text} (h : Text.PairsUp (c :: t))
    (notOpening : c ≠ '{') : t.PairsUp where
  opened := by
    rintro before after rfl
    obtain ⟨front, content, split, closed⟩ := h.opened (c :: before) after rfl
    cases front with
    | nil => exact absurd (List.cons.inj split).1 notOpening
    | cons d front => exact ⟨front, content, (List.cons.inj split).2, closed⟩
  closed := by
    rintro before after rfl
    exact h.closed (c :: before) after rfl

theorem Braced.pairsUp {t : Text} {ps : List Piece} (h : Braced t ps) : t.PairsUp := by
  induction h with
  | nil =>
    constructor
    · intro before after split
      exact absurd split (by simp)
    · intro before after split
      exact absurd split (by simp)
  | @plain c t ps notOpening notClosing rest ih =>
    constructor
    · intro before after split
      rcases List.cons_eq_append_iff.1 split with ⟨rfl, first⟩ | ⟨before, rfl, rfl⟩
      · exact absurd (List.cons.inj first).1.symm notClosing
      · obtain ⟨front, content, rfl, closed⟩ := ih.opened before after rfl
        exact ⟨c :: front, content, rfl, closed⟩
    · intro before after split
      rcases List.cons_eq_append_iff.1 split with ⟨rfl, first⟩ | ⟨before, rfl, rfl⟩
      · exact absurd (List.cons.inj first).1.symm notOpening
      · exact ih.closed before after rfl
  | @braced content t ps closes rest ih =>
    constructor
    · intro before after split
      -- A closing brace ends the group or comes after it, as none is in the content.
      rcases cases_of_append_cons_eq split with ⟨x, inside, _⟩ | ⟨rfl, _, _⟩ | ⟨x, rfl, rfl⟩
      · have member : '}' ∈ '{' :: content := by simp [inside]
        exact absurd (by simpa using member) closes
      · exact ⟨[], content, rfl, closes⟩
      · obtain ⟨front, inside, rfl, closed⟩ := ih.opened x after rfl
        exact ⟨'{' :: content ++ '}' :: front, inside, by simp, closed⟩
    · intro before after split
      -- An opening brace in the group is closed where the group ends.
      rcases cases_of_append_cons_eq split with ⟨x, _, rfl⟩ | ⟨_, same, _⟩ | ⟨x, _, rfl⟩
      · simp
      · exact absurd same (by decide)
      · exact ih.closed x after rfl

/-- The braces of a text pair up exactly if it is a row of plain characters and of groups. -/
theorem exists_braced_iff {t : Text} : (∃ ps, Braced t ps) ↔ t.PairsUp := by
  constructor
  · rintro ⟨ps, h⟩
    exact h.pairsUp
  · intro h
    induction length : t.length using Nat.strong_induction_on generalizing t with
    | _ n ih =>
      cases t with
      | nil => exact ⟨[], .nil⟩
      | cons c t =>
        rw [List.length_cons] at length
        by_cases closing : c = '}'
        · obtain ⟨front, content, empty, _⟩ := h.opened [] t (by rw [closing]; rfl)
          exact absurd empty (by simp)
        by_cases opening : c = '{'
        · subst opening
          obtain ⟨content, rest, rfl, closes⟩ := List.eq_append_cons_of_mem (h.closed [] t rfl)
          rw [List.length_append, List.length_cons] at length
          obtain ⟨ps, braced⟩ := ih rest.length (by omega) h.rest rfl
          exact ⟨_, .braced closes braced⟩
        · obtain ⟨ps, braced⟩ := ih t.length (by omega) (h.tail opening) rfl
          exact ⟨_, .plain opening closing braced⟩

/-! ## Braces inside groups -/

theorem closesEach_cons {c : Char} (notOpening : c ≠ '{') (t : Text) :
    Text.ClosesEach (c :: t) ↔ t.ClosesEach := by
  constructor
  · rintro h before after rfl
    exact h (c :: before) after rfl
  · intro h before after split
    rcases List.cons_eq_append_iff.1 split with ⟨rfl, first⟩ | ⟨before, rfl, rfl⟩
    · exact absurd (List.cons.inj first).1.symm notOpening
    · exact h before after rfl

theorem closesEach_group {content : Text} (closes : '}' ∉ content) (t : Text) :
    Text.ClosesEach ('{' :: content ++ '}' :: t) ↔ '{' ∉ content ∧ t.ClosesEach := by
  have takes {x : Text} (noBrace : '{' ∉ x) (u : Text) :
      (x ++ u).takeWhile (· != '{') = x ++ u.takeWhile (· != '{') := by
    refine List.takeWhile_append_of_pos fun c hc => bne_iff_ne.2 ?_
    rintro rfl
    exact noBrace hc
  constructor
  · intro h
    constructor
    · intro nested
      -- Up to the inner brace nothing is closed.
      obtain ⟨x, y, rfl, first⟩ := List.eq_append_cons_of_mem nested
      have closing := h [] ((x ++ '{' :: y) ++ '}' :: t) rfl
      rw [List.append_assoc, takes first] at closing
      have inside : '}' ∈ x := by simpa using closing
      exact closes (List.mem_append_left _ inside)
    · rintro before after rfl
      exact h ('{' :: content ++ '}' :: before) after (by simp)
  · rintro ⟨flat, h⟩ before after split
    rcases cases_of_append_cons_eq split with ⟨x, inside, rfl⟩ | ⟨_, same, _⟩ | ⟨x, _, rfl⟩
    · have noBrace : '{' ∉ x := by
        rcases List.cons_eq_append_iff.1 inside with ⟨_, first⟩ | ⟨y, _, rfl⟩
        · rwa [(List.cons.inj first).2]
        · exact fun hx => flat (List.mem_append_right y (List.mem_cons_of_mem '{' hx))
      rw [takes noBrace]
      simp
    · exact absurd same (by decide)
    · exact h x after rfl

/-- Every brace is closed before the next one exactly if no group has a brace in it. -/
theorem Braced.closesEach_iff {t : Text} {ps : List Piece} (h : Braced t ps) :
    t.ClosesEach ↔ ∀ content, Piece.braced content ∈ ps → '{' ∉ content := by
  induction h with
  | nil => simp [Text.ClosesEach]
  | plain notOpening _ _ ih => simp [closesEach_cons notOpening, ih]
  | braced closes _ ih =>
    rw [closesEach_group closes, ih]
    simp

/-! ## Braces of a prepared segment -/

theorem mem_groupSigns_of_isBrace {c : Char} (brace : isBrace c = true) : c ∈ groupSigns := by
  have sign : c = '{' ∨ c = '}' := by simpa [isBrace] using brace
  rcases sign with rfl | rfl <;> decide

/-- A brace is a starter, is final and is read as notation: it belongs to no phoneme. -/
theorem foreign_of_isBrace {c : Char} (brace : isBrace c = true) :
    combiningClass c = 0 ∧ decompose c = [c] ∧ isDigraphLetter c = false ∧
      isOrdinary c = false := by
  have checked : (groupSigns.all fun s => combiningClass s == 0 && decompose s == [s] &&
      !isDigraphLetter s && !isOrdinary s) = true := by decide +kernel
  simpa [and_assoc] using List.all_eq_true.1 checked c (mem_groupSigns_of_isBrace brace)

/-- No mark moves beyond a brace. -/
theorem filter_isBrace_insertMark (c : Char) (t : Text) :
    (insertMark c t).filter isBrace = (c :: t).filter isBrace := by
  induction t with
  | nil => rfl
  | cons d t ih =>
    rw [insertMark]
    split
    · next passes =>
      have noBrace : isBrace d = false := by
        rw [← Bool.not_eq_true]
        intro brace
        exact passes.1 (foreign_of_isBrace brace).1
      rw [List.filter_cons_of_neg (by simp [noBrace]), ih, List.filter_cons, List.filter_cons,
        List.filter_cons_of_neg (by simp [noBrace])]
    · rfl

theorem filter_isBrace_nfd (t : Text) : t.nfd.filter isBrace = t.filter isBrace := by
  have ordered (u : Text) : (reorderMarks u).filter isBrace = u.filter isBrace := by
    induction u with
    | nil => rfl
    | cons c u ih =>
      show (insertMark c (reorderMarks u)).filter isBrace = _
      rw [filter_isBrace_insertMark, List.filter_cons, List.filter_cons, ih]
  have each (c : Char) : (decompose c).filter isBrace = [c].filter isBrace := by
    by_cases brace : isBrace c = true
    · rw [(foreign_of_isBrace brace).2.1]
    · rw [List.filter_cons_of_neg brace, List.filter_eq_nil_iff.2]
      · rfl
      · intro d hd brace'
        rw [eq_of_mem_decompose_of_mem_groupSigns (mem_groupSigns_of_isBrace brace') hd] at brace
        exact brace brace'
  rw [Text.nfd, ordered, List.filter_flatMap, List.flatMap_congr fun c _ => each c,
    ← List.filter_flatMap, List.flatMap_singleton']

/-- Preparing a segment leaves its braces as they are. -/
theorem filter_isBrace_prepared (segment : Text) :
    segment.prepared.filter isBrace = segment.filter isBrace := by
  rw [Text.prepared, filter_isBrace_nfd,
    filter_fold_rules (fun _ brace => (foreign_of_isBrace brace).2.2.1)
      (fun _ brace => (foreign_of_isBrace brace).2.2.2),
    ← filter_isBrace_nfd, Text.nfd_nfc, filter_isBrace_nfd]

/-! ## Braces in slots -/

theorem Braced.notMem_content {t : Text} {ps : List Piece} (h : Braced t ps) {content : Text}
    (member : Piece.braced content ∈ ps) : '}' ∉ content := by
  induction h with
  | nil => simp at member
  | plain _ _ _ ih => exact ih (by simpa using member)
  | braced closes _ ih =>
    rcases List.mem_cons.1 member with same | later
    · exact Piece.braced.inj same ▸ closes
    · exact ih later

/-- Each group leaves a placeholder, whether or not the segment has placeholders of its own. -/
theorem length_groups_le (t : Text) : t.groups.length ≤ t.withoutGroups.count placeholder := by
  rw [withoutGroups_eq, groups_eq]
  induction pieces t with
  | nil => simp
  | cons piece ps ih =>
    rw [List.flatMap_cons, List.count_append]
    cases piece with
    | plain c =>
      simp only [List.filterMap_cons, Piece.content?]
      omega
    | braced content =>
      by_cases several : 1 < content.countUnits
      · simp [Piece.flattened, Piece.content?, several]
        omega
      · simp [Piece.flattened, Piece.content?, several]
        omega

/-- The slots of a form use up its groups. -/
theorem contents_of_parse {segment : Text} {form : Form} (parsed : Form.parse segment = .ok form) :
    form.slots.filterMap (·.symbol.content?) = segment.prepared.groups := by
  obtain ⟨_, read, _⟩ := read_of_parse parsed
  have visible : ∀ c, (c == placeholder) = true → isBlank c = false := by
    intro c same
    rw [beq_iff_eq.1 same]
    decide
  rw [(readsAs_of_segmentSlots read).contents.1, List.take_of_length_le]
  exact (length_groups_le _).trans_eq (countP_dropWhile_isBlank visible _).symm

section

variable {t : Text} {groups : List Text} {slots : List Slot} {c : Char}

/-- The text of a slot is in the text that is read, or in a group. -/
theorem ReadsAs.mem_of_mem_text (h : ReadsAs t groups slots) {s : Slot} (hs : s ∈ slots)
    (hc : c ∈ s.symbol.text) : c ∈ t ∨ ∃ content ∈ groups, c ∈ content := by
  induction h with
  | nil => simp at hs
  | @cons first row t groups slots here later ih =>
    rcases List.mem_cons.1 hs with rfl | hs
    · have opens := here.symbol
      cases opened : s.symbol with
      | literal d =>
        rw [opened] at opens hc
        rw [List.mem_singleton.1 hc, ← opens.1]
        exact Or.inl (List.mem_append_left t List.mem_cons_self)
      | group content =>
        rw [opened] at hc
        exact Or.inr ⟨content, List.mem_cons_self, hc⟩
      | _ =>
        rw [opened] at hc
        simp [Symbol.text] at hc
    · rcases ih hs with inside | ⟨content, member, inside⟩
      · exact Or.inl (List.mem_append_right row.text inside)
      · exact Or.inr ⟨content, List.mem_append_right _ member, inside⟩

/-- A phoneme that is no sign of notation is a slot of its own. -/
theorem ReadsAs.exists_literal (h : ReadsAs t groups slots) (unit : isUnit c = true)
    (ordinary : c ∉ [placeholder, 'V', '-', 'ø']) (hc : c ∈ t) :
    ∃ s ∈ slots, s.symbol = .literal c := by
  induction h with
  | nil => simp at hc
  | @cons s row t groups slots here later ih =>
    rcases List.mem_append.1 hc with inside | after
    · refine ⟨s, List.mem_cons_self, ?_⟩
      rcases List.mem_cons.1 inside with rfl | attached
      · have opens := here.symbol
        cases opened : s.symbol with
        | literal d => rw [(opened ▸ opens : row.phoneme = d ∧ _).1]
        | _ =>
          rw [opened] at opens
          exact absurd (by simp [show row.phoneme = _ from opens]) ordinary
      · rw [row.not_isUnit_of_mem c attached] at unit
        exact absurd unit (by simp)
    · obtain ⟨s', member, same⟩ := ih after
      exact ⟨s', List.mem_cons_of_mem s member, same⟩

end

section

variable {segment : Text} {form : Form} (parsed : Form.parse segment = .ok form) {c : Char}

include parsed

/-- A brace in a slot stood inside a group: none is left outside the groups. -/
theorem exists_braced_of_slot (brace : isBrace c = true) {s : Slot} (hs : s ∈ form.slots)
    (hc : c ∈ s.symbol.text) :
    ∃ content, Piece.braced content ∈ pieces segment.prepared ∧ c ∈ content := by
  obtain ⟨paired, read, _⟩ := read_of_parse parsed
  rcases (readsAs_of_segmentSlots read).mem_of_mem_text hs hc with inside | ⟨content, member, inside⟩
  · have flat := (List.dropWhile_suffix isBlank).subset inside
    rcases mem_withoutGroups_iff.1 flat with stray | ⟨content, member, here⟩
    · exact absurd brace (List.any_eq_false.1 paired _ stray)
    · split at here
      · rw [here] at brace
        exact absurd brace (by decide)
      · exact ⟨content, member, here⟩
  · exact ⟨content, (mem_groups_iff.1 member).1, inside⟩

/-- What stands in a group of several phonemes is in the slot of the group. -/
theorem exists_slot_of_mem_group {content : Text} (grouped : content ∈ segment.prepared.groups)
    (hc : c ∈ content) : ∃ s ∈ form.slots, c ∈ s.symbol.text := by
  rw [← contents_of_parse parsed] at grouped
  obtain ⟨s, hs, taken⟩ := List.mem_filterMap.1 grouped
  refine ⟨s, hs, ?_⟩
  cases opened : s.symbol with
  | group content' =>
    rw [opened] at taken
    rwa [Symbol.text, Option.some.inj taken]
  | _ =>
    rw [opened] at taken
    simp [Symbol.content?] at taken

/-- A brace that is left of the segment without its groups is a slot of its own. -/
theorem exists_slot_of_mem_withoutGroups (brace : isBrace c = true)
    (flat : c ∈ segment.prepared.withoutGroups) : ∃ s ∈ form.slots, c ∈ s.symbol.text := by
  obtain ⟨_, read, _⟩ := read_of_parse parsed
  have sign : c = '{' ∨ c = '}' := by simpa [isBrace] using brace
  have unit : isUnit c = true := by rcases sign with rfl | rfl <;> decide
  have ordinary : c ∉ [placeholder, 'V', '-', 'ø'] := by rcases sign with rfl | rfl <;> decide
  have visible : isBlank c = false := (isUnit_iff.1 unit).1
  rw [← List.takeWhile_append_dropWhile (p := isBlank) (l := segment.prepared.withoutGroups)]
    at flat
  rcases List.mem_append.1 flat with blank | inside
  · rw [List.all_eq_true.1 List.all_takeWhile c blank] at visible
    exact absurd visible (by simp)
  · obtain ⟨s, hs, same⟩ :=
      (readsAs_of_segmentSlots read).exists_literal unit ordinary inside
    exact ⟨s, hs, by simp [same, Symbol.text]⟩

/-- The slots have the braces that stand inside groups. -/
theorem exists_slot_brace_iff (brace : isBrace c = true) :
    (∃ s ∈ form.slots, c ∈ s.symbol.text) ↔
      ∃ content, Piece.braced content ∈ pieces segment.prepared ∧ c ∈ content := by
  constructor
  · rintro ⟨s, hs, hc⟩
    exact exists_braced_of_slot parsed brace hs hc
  · rintro ⟨content, member, hc⟩
    by_cases several : 1 < content.countUnits
    · exact exists_slot_of_mem_group parsed (mem_groups_iff.2 ⟨member, several⟩) hc
    · -- Without its braces, a group of one phoneme stays where it is.
      refine exists_slot_of_mem_withoutGroups parsed brace (mem_withoutGroups_iff.2 (.inr ?_))
      exact ⟨content, member, by rwa [if_neg several]⟩

end

/-! ## Parsing -/

/-- A segment is refused for its braces exactly if they do not pair up. In a segment that is parsed
    they do, and a slot has a brace in it exactly if one is opened again before it is closed. -/
theorem parse_braces (segment : Text) :
    (Form.parse segment = .error (.malformed (.braces segment)) ↔ ¬segment.PairsUp) ∧
      ∀ form, Form.parse segment = .ok form →
        segment.prepared.PairsUp ∧ (∀ s ∈ form.slots, '}' ∉ s.symbol.text) ∧
          (segment.prepared.ClosesEach ↔ ∀ s ∈ form.slots, '{' ∉ s.symbol.text) := by
  have paired_iff : (∃ ps, Braced segment.prepared ps) ↔ segment.PairsUp := by
    rw [exists_braced_iff, ← pairsUp_filter_isBrace, filter_isBrace_prepared,
      pairsUp_filter_isBrace]
  constructor
  · rw [← paired_iff]
    constructor
    · intro failed
      rcases parse_error_cases failed with ⟨_, unpaired⟩ | ⟨c, _, _, other⟩ | ⟨other, _⟩
      · exact unpaired
      · exact absurd other (by simp)
      · exact absurd other (by simp)
    · intro unpaired
      apply parse_of_stray
      rw [← Bool.not_eq_false]
      exact fun paired => unpaired ⟨_, braced_pieces paired⟩
  · intro form parsed
    have braced := braced_pieces (read_of_parse parsed).1
    refine ⟨exists_braced_iff.1 ⟨_, braced⟩, fun s hs hc => ?_, ?_⟩
    · obtain ⟨content, member, inside⟩ :=
        (exists_slot_brace_iff parsed (by decide)).1 ⟨s, hs, hc⟩
      exact braced.notMem_content member inside
    · rw [braced.closesEach_iff]
      have slots := exists_slot_brace_iff parsed (c := '{') (by decide)
      constructor
      · intro flat s hs hc
        obtain ⟨content, member, inside⟩ := slots.1 ⟨s, hs, hc⟩
        exact flat content member inside
      · intro none content member inside
        obtain ⟨s, hs, hc⟩ := slots.2 ⟨content, member, inside⟩
        exact none s hs hc

-- A group with a digraph and a group of one phoneme; and two braces that close one group.
theorem parse_braces_of_groups :
    (∃ form, Form.parse ['{', 'p', 'k', 'h', '}', 'a', '{', 'e', '}'] = .ok form ∧
        form.slots = [{ symbol := .group ['p', 'x'] }, { symbol := .literal 'a' },
          { symbol := .literal 'e' }] ∧
        (Text.prepared ['{', 'p', 'k', 'h', '}', 'a', '{', 'e', '}']).PairsUp ∧
        (Text.prepared ['{', 'p', 'k', 'h', '}', 'a', '{', 'e', '}']).ClosesEach) ∧
      Form.parse ['{', 'a', '{', 'b', '}', '}'] =
        .error (.malformed (.braces ['{', 'a', '{', 'b', '}', '}'])) ∧
      ¬Text.PairsUp ['{', 'a', '{', 'b', '}', '}'] := by
  have parsed : Form.parse ['{', 'p', 'k', 'h', '}', 'a', '{', 'e', '}'] = .ok {
      slots := [{ symbol := .group ['p', 'x'] }, { symbol := .literal 'a' },
        { symbol := .literal 'e' }],
      groups := [['p', 'x']] } := by
    apply eq_ok_of_toOption_eq_some
    decide +kernel
  have refused : Form.parse ['{', 'a', '{', 'b', '}', '}'] =
      .error (.malformed (.braces ['{', 'a', '{', 'b', '}', '}'])) := by
    apply parse_of_stray
    decide +kernel
  obtain ⟨pairsUp, _, flat⟩ := (parse_braces _).2 _ parsed
  exact ⟨⟨_, parsed, rfl, pairsUp, flat.2 (by decide)⟩, refused, (parse_braces _).1.1 refused⟩

/-- Two braces that are opened and closed together are let through, and one of them is a phoneme of
    the group. -/
theorem parse_admits_nested_brace :
    ∃ form, Form.parse ['{', 'a', '{', 'b', '}'] = .ok form ∧
      ¬(Text.prepared ['{', 'a', '{', 'b', '}']).ClosesEach ∧
      ∃ s ∈ form.slots, '{' ∈ s.symbol.text := by
  have parsed : Form.parse ['{', 'a', '{', 'b', '}'] =
      .ok { slots := [{ symbol := .group ['a', '{', 'b'] }], groups := [['a', '{', 'b']] } := by
    apply eq_ok_of_toOption_eq_some
    decide +kernel
  have prepared : Text.prepared ['{', 'a', '{', 'b', '}'] = ['{', 'a', '{', 'b', '}'] := by
    decide +kernel
  refine ⟨_, parsed, ?_, by simp [Symbol.text]⟩
  rw [prepared]
  intro each
  -- Between the two opening braces there is a letter only.
  exact absurd (each [] ['a', '{', 'b', '}'] rfl) (by decide)

end SoundLaw
