/-
  SoundLaw.Proofs.Notation.Reading

  How a text without braces is read as slots. Every phoneme opens a slot, and what follows it up to
  the next one belongs to that slot: the marks in order, and the last of the subscript digits
  (`Slot.IsReadFrom`). A placeholder takes the next group, so that the slots take the groups from the
  front of the queue, in order and without a gap (`ReadsAs`). The text is read to its end unless it
  begins with an attachment, or asks for more groups than there are (`segmentSlots_cases`).
-/
import SoundLaw.Notation.Form
import SoundLaw.Proofs.Text.Blank
import SoundLaw.Proofs.Traversal

namespace SoundLaw

/-! ## Phonemes and attachments -/

theorem not_isBlank_and_not_isMark_of_subscriptValue? {c : Char} {n : Nat}
    (digit : subscriptValue? c = some n) : isBlank c = false ∧ isMark c = false := by
  have apart : ((blanks ++ (basicMarks ++ supplementaryMarks)).all fun r =>
      Nat.blt r.2 0x2080 || Nat.blt 0x2089 r.1) = true := by decide +kernel
  rw [subscriptValue?] at digit
  split at digit
  · next bounds =>
    rw [Bool.and_eq_true, decide_eq_true_eq, decide_eq_true_eq] at bounds
    -- The digits are ten code points in a row, which no range of these sets comes to.
    have outside : ∀ r ∈ blanks ++ (basicMarks ++ supplementaryMarks),
        ¬(r.1 ≤ c.toNat ∧ c.toNat ≤ r.2) := by
      intro r listed
      have beyond := List.all_eq_true.1 apart r listed
      rw [Bool.or_eq_true, Nat.blt_eq, Nat.blt_eq] at beyond
      omega
    rw [← Bool.not_eq_true, ← Bool.not_eq_true, isBlank_iff, isMark_iff]
    constructor
    · rintro ⟨r, member, inside⟩
      exact outside r (List.mem_append_left _ member) inside
    · rintro ⟨r, member, inside⟩
      exact outside r (List.mem_append_right _ member) inside
  · exact absurd digit (by simp)

/-- What is no phoneme is white space, a mark or a subscript digit, and not two of them. -/
theorem cases_of_not_isUnit {c : Char} (h : isUnit c = false) :
    (isBlank c = true ∧ isMark c = false ∧ subscriptValue? c = none) ∨
      (isBlank c = false ∧ isMark c = true ∧ subscriptValue? c = none) ∨
      ∃ n, isBlank c = false ∧ isMark c = false ∧ subscriptValue? c = some n := by
  cases digit : subscriptValue? c with
  | some n =>
    obtain ⟨notBlank, notMark⟩ := not_isBlank_and_not_isMark_of_subscriptValue? digit
    exact Or.inr (Or.inr ⟨n, notBlank, notMark, rfl⟩)
  | none =>
    cases blank : isBlank c with
    | true =>
      exact Or.inl ⟨rfl, (not_isMark_and_exists_decompose_of_isBlank blank).1, rfl⟩
    | false =>
      refine Or.inr (Or.inl ⟨rfl, ?_, rfl⟩)
      simpa [isUnit, isSubscript, digit, blank] using h

theorem isUnit_iff {c : Char} :
    isUnit c = true ↔ isBlank c = false ∧ isMark c = false ∧ subscriptValue? c = none := by
  simp only [isUnit, isSubscript, Bool.and_eq_true, Bool.not_eq_true', Option.isSome_eq_false_iff,
    Option.isNone_iff_eq_none]
  tauto

/-! ## Slots and their rows -/

/-- The part of a text that belongs to one slot: a phoneme, and what follows up to the next one. -/
structure Row where
  phoneme : Char
  attached : Text
  isUnit_phoneme : isUnit phoneme = true
  not_isUnit_of_mem : ∀ c ∈ attached, isUnit c = false

namespace Row

/-- A row as it is written. -/
def text (row : Row) : Text := row.phoneme :: row.attached

/-- The row of a phoneme with nothing after it. -/
def bare (c : Char) (h : isUnit c = true) : Row := ⟨c, [], h, by simp⟩

/-- A row with one more attachment. -/
def attach (row : Row) (c : Char) (h : isUnit c = false) : Row where
  phoneme := row.phoneme
  attached := row.attached ++ [c]
  isUnit_phoneme := row.isUnit_phoneme
  not_isUnit_of_mem := by
    intro d hd
    rcases List.mem_append.1 hd with before | last
    · exact row.not_isUnit_of_mem d before
    · rwa [List.mem_singleton.1 last]

@[simp] theorem text_attach (row : Row) {c : Char} (h : isUnit c = false) :
    (row.attach c h).text = row.text ++ [c] := rfl

theorem countUnits_text (row : Row) : row.text.countUnits = 1 := by
  have nothing : row.attached.countP isUnit = 0 :=
    List.countP_eq_zero.2 fun c hc => by simp [row.not_isUnit_of_mem c hc]
  rw [Text.countUnits, text, List.countP_cons, nothing, row.isUnit_phoneme]
  rfl

end Row

/-- Which character opens a slot of a symbol. A literal is none of the signs of the other kinds. -/
def Symbol.OpensAt : Symbol → Char → Prop
  | literal d, c => c = d ∧ c ≠ placeholder ∧ c ≠ 'V' ∧ c ≠ '-' ∧ c ≠ 'ø'
  | group _, c => c = placeholder
  | vowel, c => c = 'V'
  | wildcard, c => c = '-'
  | deletion, c => c = 'ø'

/-- The content of a group. -/
def Symbol.content? : Symbol → Option Text
  | group content => some content
  | literal _ | vowel | wildcard | deletion => none

namespace Slot

/-- How a slot is read from its row: its symbol from the phoneme, its marks from all marks after
    that, and its coindex from the last subscript digit. -/
structure IsReadFrom (s : Slot) (row : Row) : Prop where
  symbol : s.symbol.OpensAt row.phoneme
  mark : s.mark = row.attached.filter isMark
  coindex : s.coindex = (row.attached.filterMap subscriptValue?).getLast?

/-- A slot with one more attachment. A second digit takes the place of the first. -/
def attach (s : Slot) (c : Char) : Slot where
  symbol := s.symbol
  mark := s.mark ++ [c].filter isMark
  coindex := (subscriptValue? c).or s.coindex

@[simp] theorem symbol_attach (s : Slot) (c : Char) : (s.attach c).symbol = s.symbol := rfl

theorem IsReadFrom.attach {s : Slot} {row : Row} (h : s.IsReadFrom row) {c : Char}
    (attached : isUnit c = false) : (s.attach c).IsReadFrom (row.attach c attached) where
  symbol := h.symbol
  mark := by rw [Slot.attach, Row.attach, List.filter_append, ← h.mark]
  coindex := by
    rw [Slot.attach, Row.attach, List.filterMap_append, List.getLast?_append, ← h.coindex]
    cases digit : subscriptValue? c <;> simp [digit]

end Slot

/-- A row has a placeholder exactly if its slot is a group. -/
theorem Slot.IsReadFrom.count_placeholder {s : Slot} {row : Row} (h : s.IsReadFrom row) :
    row.text.count placeholder = s.symbol.content?.toList.length := by
  have nothing : row.attached.count placeholder = 0 := by
    refine List.count_eq_zero_of_not_mem fun member => ?_
    exact absurd (row.not_isUnit_of_mem placeholder member) (by decide +kernel)
  have symbol := h.symbol
  rw [Row.text, List.count_cons, nothing]
  cases opened : s.symbol with
  | group content =>
    rw [opened] at symbol
    simp [Symbol.content?, show row.phoneme = placeholder from symbol]
  | literal d =>
    rw [opened] at symbol
    simp [Symbol.content?, symbol.2.1]
  | _ =>
    rw [opened] at symbol
    simp [Symbol.content?, show row.phoneme = _ from symbol, placeholder]

/-! ## Reading -/

section Reading

variable {slot : Slot} {groups : List Text} {c : Char} {t : Text}

theorem readSlots_of_not_isUnit (attached : isUnit c = false) :
    readSlots slot groups (c :: t) = readSlots (slot.attach c) groups t := by
  rw [readSlots]
  rcases cases_of_not_isUnit attached with ⟨blank, mark, digit⟩ | ⟨blank, mark, digit⟩ |
    ⟨n, blank, mark, digit⟩
  · simp [Slot.attach, blank, mark, digit]
  · simp [Slot.attach, blank, mark, digit]
  · simp [Slot.attach, blank, mark, digit]

/-- The slots of a text that begins with a phoneme. -/
def openSlots (groups : List Text) (c : Char) (t : Text) : Except Error (List Slot) := do
  let (symbol, groups) ← readSymbol groups c
  readSlots { symbol } groups t

theorem readSlots_of_isUnit (phoneme : isUnit c = true) :
    readSlots slot groups (c :: t) = (openSlots groups c t).map (slot :: ·) := by
  obtain ⟨blank, mark, digit⟩ := isUnit_iff.1 phoneme
  rw [readSlots]
  simp only [blank, mark, digit, Bool.false_eq_true, if_false, openSlots]
  cases readSymbol groups c with
  | error e => rfl
  | ok read => cases following : readSlots { symbol := read.1 } read.2 t <;>
      simp [bind, Except.bind, Except.map, pure, Except.pure, following]

theorem segmentSlots_of_cons {segment : Text} (opening : segment.dropWhile isBlank = c :: t) :
    segmentSlots groups segment =
      if isUnit c then openSlots groups c t else .error (.malformed (.dangling c segment)) := by
  have visible : isBlank c = false := by
    have head := List.head?_dropWhile_not isBlank segment
    simpa [opening] using head
  rw [segmentSlots, opening]
  simp only [isUnit, visible]
  cases isMark c <;> cases isSubscript c <;> rfl

/-- A placeholder takes the first group, if there is one, and no other character takes any. -/
theorem readSymbol_cases (groups : List Text) (c : Char) :
    (readSymbol groups c = .error .missingGroup ∧ groups = [] ∧ c = placeholder) ∨
      ∃ symbol left, readSymbol groups c = .ok (symbol, left) ∧ symbol.OpensAt c ∧
        groups = symbol.content?.toList ++ left := by
  unfold readSymbol
  by_cases taken : c = placeholder
  · rw [if_pos taken]
    cases groups with
    | nil => exact Or.inl ⟨rfl, rfl, taken⟩
    | cons group groups =>
      exact Or.inr ⟨.group group, groups, rfl, taken, rfl⟩
  · right
    rw [if_neg taken]
    by_cases vowel : c = 'V'
    · exact ⟨.vowel, groups, by rw [if_pos vowel], vowel, rfl⟩
    by_cases wildcard : c = '-'
    · exact ⟨.wildcard, groups, by rw [if_neg vowel, if_pos wildcard], wildcard, rfl⟩
    by_cases deletion : c = 'ø'
    · exact ⟨.deletion, groups, by rw [if_neg vowel, if_neg wildcard, if_pos deletion], deletion,
        rfl⟩
    · exact ⟨.literal c, groups, by rw [if_neg vowel, if_neg wildcard, if_neg deletion],
        ⟨rfl, taken, vowel, wildcard, deletion⟩, rfl⟩

end Reading

/-- How a text is read as slots: row by row, where the groups are taken from the front of a queue. -/
inductive ReadsAs : Text → List Text → List Slot → Prop
  | nil {groups : List Text} : ReadsAs [] groups []
  | cons {s : Slot} {row : Row} {t : Text} {groups : List Text} {slots : List Slot}
      (here : s.IsReadFrom row) (later : ReadsAs t groups slots) :
      ReadsAs (row.text ++ t) (s.symbol.content?.toList ++ groups) (s :: slots)

namespace ReadsAs

variable {t : Text} {groups : List Text} {slots : List Slot}

/-- There is a slot for each phoneme. -/
theorem length_eq (h : ReadsAs t groups slots) : slots.length = t.countUnits := by
  induction h with
  | nil => rfl
  | cons here later ih =>
    rw [Text.countUnits, List.countP_append, List.length_cons, ih, Nat.add_comm]
    exact congrArg (· + _) (Row.countUnits_text _).symm

/-- The groups of the slots are the first ones of the queue, one for each placeholder. -/
theorem contents (h : ReadsAs t groups slots) :
    slots.filterMap (·.symbol.content?) = groups.take (t.count placeholder) ∧
      t.count placeholder ≤ groups.length := by
  induction h with
  | nil => simp
  | @cons s row t groups slots here later ih =>
    rw [List.count_append, here.count_placeholder, List.filterMap_cons]
    cases s.symbol.content? with
    | none => simpa using ih
    | some content => simpa [Nat.add_comm 1] using ih

/-- What a slot has as its marks are marks of the text. -/
theorem isMark_of_mem_mark (h : ReadsAs t groups slots) :
    ∀ s ∈ slots, ∀ m ∈ s.mark, m ∈ t ∧ isMark m = true := by
  induction h with
  | nil => simp
  | @cons s row t groups slots here later ih =>
    refine List.forall_mem_cons.2 ⟨fun m hm => ?_, fun s hs m hm => ?_⟩
    · rw [here.mark] at hm
      obtain ⟨attached, mark⟩ := List.mem_filter.1 hm
      exact ⟨List.mem_append_left t (List.mem_cons_of_mem row.phoneme attached), mark⟩
    · obtain ⟨inRest, mark⟩ := ih s hs m hm
      exact ⟨List.mem_append_right row.text inRest, mark⟩

end ReadsAs

/-- How the reading of a text ends: with slots, or because it asks for more groups than there
    are. -/
def ReadsOrLacks (t : Text) (groups : List Text) (outcome : Except Error (List Slot)) : Prop :=
  (∃ slots, outcome = .ok slots ∧ ReadsAs t groups slots) ∨
    (outcome = .error .missingGroup ∧ groups.length < t.count placeholder)

section Outcomes

variable {groups : List Text} {c : Char} {t : Text}

/-- If a slot that has just been opened is read to its end, then so is the text that opens it. -/
theorem readsOrLacks_openSlots (unit : isUnit c = true)
    (following : ∀ symbol left, Slot.IsReadFrom { symbol } (Row.bare c unit) →
      ReadsOrLacks (c :: t) (symbol.content?.toList ++ left) (readSlots { symbol } left t)) :
    ReadsOrLacks (c :: t) groups (openSlots groups c t) := by
  rcases readSymbol_cases groups c with ⟨failed, rfl, rfl⟩ | ⟨symbol, left, read, opens, rfl⟩
  · rw [openSlots, failed]
    exact Or.inr ⟨rfl, by simp⟩
  · rw [openSlots, read]
    exact following symbol left ⟨opens, rfl, rfl⟩

/-- What follows an open slot is read to its end. -/
theorem readsOrLacks_readSlots {slot : Slot} {row : Row} (opened : slot.IsReadFrom row) :
    ReadsOrLacks (row.text ++ t) (slot.symbol.content?.toList ++ groups)
      (readSlots slot groups t) := by
  -- Along the text: what has been read of the row of the open slot is that row so far.
  induction t generalizing slot row groups with
  | nil => exact Or.inl ⟨[slot], rfl, .cons opened .nil⟩
  | cons c t ih =>
    cases unit : isUnit c with
    | false =>
      rw [readSlots_of_not_isUnit unit]
      simpa using ih (opened.attach unit)
    | true =>
      have next : ReadsOrLacks (c :: t) groups (openSlots groups c t) :=
        readsOrLacks_openSlots unit fun symbol left starts => ih starts
      rw [readSlots_of_isUnit unit]
      rcases next with ⟨slots, read, reads⟩ | ⟨failed, few⟩
      · exact Or.inl ⟨slot :: slots, by rw [read]; rfl, .cons opened reads⟩
      · refine Or.inr ⟨by rw [failed]; rfl, ?_⟩
        rw [List.count_append, List.length_append, opened.count_placeholder]
        exact Nat.add_lt_add_left few _

/-- A segment without braces is read to its end, unless it begins with an attachment. -/
theorem segmentSlots_cases (groups : List Text) (segment : Text) :
    ReadsOrLacks (segment.dropWhile isBlank) groups (segmentSlots groups segment) ∨
      ∃ c ∈ (segment.dropWhile isBlank).head?, isUnit c = false ∧
        segmentSlots groups segment = .error (.malformed (.dangling c segment)) := by
  cases opening : segment.dropWhile isBlank with
  | nil =>
    rw [segmentSlots, opening]
    exact Or.inl (Or.inl ⟨[], rfl, .nil⟩)
  | cons c t =>
    rw [segmentSlots_of_cons opening]
    cases unit : isUnit c with
    | false => exact Or.inr ⟨c, rfl, unit, rfl⟩
    | true =>
      rw [if_pos rfl]
      exact Or.inl (readsOrLacks_openSlots unit fun symbol left starts =>
        readsOrLacks_readSlots starts)

theorem readsAs_of_segmentSlots {segment : Text} {slots : List Slot}
    (h : segmentSlots groups segment = .ok slots) :
    ReadsAs (segment.dropWhile isBlank) groups slots := by
  rcases segmentSlots_cases groups segment with
    (⟨slots', read, reads⟩ | ⟨failed, _⟩) | ⟨c, _, _, failed⟩
  · obtain rfl := Except.ok.inj (h.symm.trans read)
    exact reads
  · exact absurd (h.symm.trans failed) (by simp)
  · exact absurd (h.symm.trans failed) (by simp)

end Outcomes

/-! ## Forms -/

/-- A segment that is parsed has braces that pair up, and the slots of what is left without them. -/
theorem read_of_parse {segment : Text} {form : Form} (h : Form.parse segment = .ok form) :
    (pieces segment.prepared).any Piece.isStray = false ∧
      segmentSlots segment.prepared.groups segment.prepared.withoutGroups = .ok form.slots ∧
      form.groups = segment.prepared.groups := by
  rw [Form.parse] at h
  split at h
  · exact absurd h (by simp)
  · next paired =>
    obtain ⟨slots, read, made⟩ := bind_eq_ok_iff.1 h
    obtain rfl := Except.ok.inj made
    exact ⟨by simpa using paired, read, rfl⟩

theorem isMark_of_mem_mark_of_parse {segment : Text} {form : Form}
    (h : Form.parse segment = .ok form) : ∀ s ∈ form.slots, ∀ m ∈ s.mark, isMark m = true :=
  fun s hs m hm => ((readsAs_of_segmentSlots (read_of_parse h).2.1).isMark_of_mem_mark s hs m hm).2

end SoundLaw
