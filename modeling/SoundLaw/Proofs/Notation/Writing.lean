/-
  SoundLaw.Proofs.Notation.Writing

  Slots written out and parsed back (`parse_joinWithSpaces`). A slot is written as its sign, the marks
  after it and the digit of its coindex; a group is written as its alternatives between braces. Spaces
  between slots and between alternatives keep apart what could be read as a digraph, so such a text
  is prepared already (`Text.IsSettled`). It is then cut at its braces, and read slot by slot.
-/
import SoundLaw.Proofs.Notation.Halves
import SoundLaw.Proofs.Notation.Parsing
import SoundLaw.Proofs.Spelling.Unfolded
import SoundLaw.Variant.Alignment

namespace SoundLaw

/-! ## Written slots -/

/-- Texts with a space between each two of them. -/
def joinWithSpaces (ts : List Text) : Text := [' '].intercalate ts

theorem joinWithSpaces_cons (t : Text) (ts : List Text) :
    joinWithSpaces (t :: ts) = t ++ ts.flatMap (' ' :: ·) := by
  induction ts generalizing t with
  | nil => simp [joinWithSpaces, List.intercalate]
  | cons u ts ih =>
    have next : joinWithSpaces (t :: u :: ts) = t ++ ' ' :: joinWithSpaces (u :: ts) := by
      simp [joinWithSpaces, List.intercalate]
    rw [next, ih, List.flatMap_cons, List.cons_append]

/-- What a slot is written for: one of the symbols of notation, where a group has a list of
    alternatives. -/
inductive Sign
  | letter (c : Char)
  | choice (alternatives : List Text)
  | vowel
  | wildcard
  | deletion

namespace Sign

/-- The symbol that is parsed from a sign. -/
def symbol : Sign → Symbol
  | letter c => .literal c
  | choice alternatives => .group (joinWithSpaces alternatives)
  | vowel => .vowel
  | wildcard => .wildcard
  | deletion => .deletion

/-- What is written of a sign before its last character. -/
def opening : Sign → Text
  | choice alternatives => '{' :: joinWithSpaces alternatives
  | letter _ | vowel | wildcard | deletion => []

/-- The last character of a sign, which the marks follow. -/
def last : Sign → Char
  | letter c => c
  | choice _ => '}'
  | vowel => 'V'
  | wildcard => '-'
  | deletion => 'ø'

end Sign

/-- A slot as it is written. -/
structure WrittenSlot where
  sign : Sign
  mark : Text
  coindex : Option (Fin 10)

/-- The digit of a coindex. -/
def subscriptDigit (n : Fin 10) : Char := Char.ofNat (0x2080 + n)

namespace WrittenSlot

/-- What follows the sign of a slot. -/
def attached (w : WrittenSlot) : Text := w.mark ++ w.coindex.toList.map subscriptDigit

def text (w : WrittenSlot) : Text := w.sign.opening ++ w.sign.last :: w.attached

/-- The slot that is parsed from the text. -/
def slot (w : WrittenSlot) : Slot where
  symbol := w.sign.symbol
  mark := w.mark
  coindex := w.coindex.map Fin.val

end WrittenSlot

/-! ## What can be written -/

/-- A character that notation reads as a phoneme of its own. -/
structure IsPhonemeSign (c : Char) : Prop where
  letter : isMark c = false
  ordinary : isOrdinary c = true
  final : decompose c = [c]

/-- Marks that stay as they are after a character when the two are decomposed. -/
structure MarksFollow (c : Char) (marks : Text) : Prop where
  marked : ∀ m ∈ marks, isMark m = true
  decomposed : Text.nfd (c :: marks) = c :: marks

/-- An alternative of a group: a phoneme with marks. -/
def Text.IsAlternative : Text → Prop
  | [] => False
  | c :: marks => IsPhonemeSign c ∧ MarksFollow c marks

def Sign.IsWritable : Sign → Prop
  | letter c => IsPhonemeSign c
  | choice alternatives => 2 ≤ alternatives.length ∧ ∀ a ∈ alternatives, a.IsAlternative
  | vowel | wildcard | deletion => True

structure WrittenSlot.IsWritable (w : WrittenSlot) : Prop where
  sign : w.sign.IsWritable
  mark : MarksFollow w.sign.last w.mark

instance (c : Char) : Decidable (IsPhonemeSign c) :=
  decidable_of_iff (isMark c = false ∧ isOrdinary c = true ∧ decompose c = [c])
    ⟨fun h => ⟨h.1, h.2.1, h.2.2⟩, fun h => ⟨h.letter, h.ordinary, h.final⟩⟩

instance (c : Char) (marks : Text) : Decidable (MarksFollow c marks) :=
  decidable_of_iff (marks.all isMark = true ∧ Text.nfd (c :: marks) = c :: marks)
    ⟨fun h => ⟨List.all_eq_true.1 h.1, h.2⟩, fun h => ⟨List.all_eq_true.2 h.marked, h.decomposed⟩⟩

instance : (a : Text) → Decidable a.IsAlternative
  | [] => inferInstanceAs (Decidable False)
  | c :: marks => inferInstanceAs (Decidable (IsPhonemeSign c ∧ MarksFollow c marks))

instance : (sign : Sign) → Decidable sign.IsWritable
  | .letter c => inferInstanceAs (Decidable (IsPhonemeSign c))
  | .choice alternatives =>
    inferInstanceAs (Decidable (2 ≤ alternatives.length ∧ ∀ a ∈ alternatives, a.IsAlternative))
  | .vowel | .wildcard | .deletion => inferInstanceAs (Decidable True)

instance (w : WrittenSlot) : Decidable w.IsWritable :=
  decidable_of_iff (w.sign.IsWritable ∧ MarksFollow w.sign.last w.mark)
    ⟨fun h => ⟨h.1, h.2⟩, fun h => ⟨h.sign, h.mark⟩⟩

theorem Text.IsAlternative.exists_cons {a : Text} (h : a.IsAlternative) :
    ∃ c marks, a = c :: marks ∧ IsPhonemeSign c ∧ MarksFollow c marks := by
  cases a with
  | nil => exact absurd h id
  | cons c marks => exact ⟨c, marks, rfl, h⟩

/-! ## Single characters -/

/-- Notation gives no mark a meaning of its own. -/
theorem isOrdinary_of_isMark {m : Char} (mark : isMark m = true) : isOrdinary m = true := by
  have signs : (['{', '}', placeholder, 'V', 'ø', '-'].all fun c => !isMark c) = true := by
    decide +kernel
  have other : ∀ c ∈ ['{', '}', placeholder, 'V', 'ø', '-'], m ≠ c := by
    rintro c hc rfl
    have letter := List.all_eq_true.1 signs m hc
    rw [mark] at letter
    exact absurd letter (by simp)
  have noDigit : isSubscript m = false := by
    rw [isSubscript, Option.isSome_eq_false_iff, Option.isNone_iff_eq_none]
    cases digit : subscriptValue? m with
    | none => rfl
    | some n =>
      rw [(not_isBlank_and_not_isMark_of_subscriptValue? digit).2] at mark
      exact absurd mark (by simp)
  exact isOrdinary_iff.2 ⟨isBlank_of_isMark mark, noDigit, other _ (by simp), other _ (by simp),
    other _ (by simp), other _ (by simp), other _ (by simp), other _ (by simp)⟩

theorem subscriptValue?_subscriptDigit (n : Fin 10) :
    subscriptValue? (subscriptDigit n) = some n.val := by
  revert n
  decide

theorem IsPhonemeSign.isUnit {c : Char} (h : IsPhonemeSign c) : isUnit c = true := by
  obtain ⟨visible, noDigit, _⟩ := isOrdinary_iff.1 h.ordinary
  simp [SoundLaw.isUnit, visible, noDigit, h.letter]

/-- The characters that stand between letters in a written slot. -/
def IsDivider (c : Char) : Prop :=
  isMark c = false ∧ decompose c = [c] ∧ isDigraphLetter c = false

theorem isDivider_signs : ∀ c ∈ [' ', '{', '}', 'V', '-', 'ø'], IsDivider c := by
  have checked : ([' ', '{', '}', 'V', '-', 'ø'].all fun c =>
      !isMark c && decompose c == [c] && !isDigraphLetter c) = true := by decide +kernel
  intro c member
  simpa [IsDivider, and_assoc] using List.all_eq_true.1 checked c member

theorem isDivider_subscriptDigit (n : Fin 10) : IsDivider (subscriptDigit n) := by
  unfold IsDivider
  revert n
  decide +kernel

/-! ## Settled texts -/

/-- A text that is decomposed and has no digraph. -/
structure Text.IsSettled (t : Text) : Prop where
  decomposed : t.nfd = t
  apart : t.StandsApart

namespace Text.IsSettled

variable {a b t : Text} {c : Char}

/-- Nothing is changed in a settled text when it is prepared. -/
theorem prepared_eq (h : t.IsSettled) : t.prepared = t := by
  have apart : t.nfd.StandsApart := h.decomposed.symm ▸ h.apart
  rw [apart.prepared_eq, h.decomposed]

theorem append (ha : a.IsSettled) (hb : b.IsSettled)
    (divided : ∀ c ∈ b.head?, isMark c = false ∧ isDigraphLetter c = false) :
    (a ++ b).IsSettled where
  decomposed := by
    rw [Text.nfd_append fun c hc => (divided c hc).1, ha.decomposed, hb.decomposed]
  apart := List.isChain_append.2 ⟨ha.apart, hb.apart, fun _ _ c hc _ => (divided c hc).2⟩

/-- A divider can be put in front of a settled text. -/
theorem cons (divider : IsDivider c) (h : t.IsSettled) : Text.IsSettled (c :: t) where
  decomposed := by rw [nfd_cons_of_final divider.2.1 divider.1, h.decomposed]
  apart := by
    refine List.isChain_cons.2 ⟨fun d _ letter => ?_, h.apart⟩
    rw [divider.2.2] at letter
    exact absurd letter (by simp)

end Text.IsSettled

/-- A character with marks is settled: no mark is a letter of a digraph. -/
theorem MarksFollow.isSettled {c : Char} {marks : Text} (h : MarksFollow c marks) :
    Text.IsSettled (c :: marks) := by
  refine ⟨h.decomposed, ?_⟩
  have foreign : ∀ m ∈ marks, isDigraphLetter m = false :=
    fun m hm => isDigraphLetter_eq_false_of_isMark (h.marked m hm)
  clear h
  induction marks generalizing c with
  | nil => exact List.isChain_singleton c
  | cons m marks ih =>
    obtain ⟨here, later⟩ := List.forall_mem_cons.1 foreign
    exact List.isChain_cons_cons.2 ⟨fun _ => here, ih later⟩

/-- Settled texts can be put one after the other, with spaces between them. -/
theorem isSettled_flatMap_space {ts : List Text} (settled : ∀ t ∈ ts, t.IsSettled) :
    Text.IsSettled (ts.flatMap (' ' :: ·)) := by
  induction ts with
  | nil => exact ⟨rfl, List.isChain_nil⟩
  | cons t ts ih =>
    obtain ⟨here, later⟩ := List.forall_mem_cons.1 settled
    have space : IsDivider ' ' := isDivider_signs ' ' (by simp)
    rw [List.flatMap_cons]
    refine (here.cons space).append (ih later) fun c hc => ?_
    cases ts with
    | nil => simp at hc
    | cons u ts =>
      obtain rfl : ' ' = c := by simpa using hc
      exact ⟨space.1, space.2.2⟩

theorem isSettled_joinWithSpaces {ts : List Text} (settled : ∀ t ∈ ts, t.IsSettled) :
    (joinWithSpaces ts).IsSettled := by
  cases ts with
  | nil => exact ⟨rfl, List.isChain_nil⟩
  | cons t ts =>
    obtain ⟨here, later⟩ := List.forall_mem_cons.1 settled
    rw [joinWithSpaces_cons]
    refine here.append (isSettled_flatMap_space later) fun c hc => ?_
    cases ts with
    | nil => simp at hc
    | cons u ts =>
      obtain rfl : ' ' = c := by simpa using hc
      have space : IsDivider ' ' := isDivider_signs ' ' (by simp)
      exact ⟨space.1, space.2.2⟩

theorem Text.IsAlternative.isSettled {a : Text} (h : a.IsAlternative) : a.IsSettled := by
  obtain ⟨_, _, rfl, _, follow⟩ := h.exists_cons
  exact follow.isSettled

theorem WrittenSlot.IsWritable.isSettled {w : WrittenSlot} (h : w.IsWritable) :
    w.text.IsSettled := by
  -- The digit comes after the marks, if there is one.
  have marked : Text.IsSettled (w.sign.last :: w.attached) := by
    rw [WrittenSlot.attached, ← List.cons_append]
    cases w.coindex with
    | none => simpa using h.mark.isSettled
    | some n =>
      have divider := isDivider_subscriptDigit n
      have digit : Text.IsSettled [subscriptDigit n] :=
        Text.IsSettled.cons divider ⟨rfl, List.isChain_nil⟩
      refine h.mark.isSettled.append digit fun c hc => ?_
      obtain rfl : subscriptDigit n = c := by simpa using hc
      exact ⟨divider.1, divider.2.2⟩
  have sign := h.sign
  rw [WrittenSlot.text]
  cases signed : w.sign with
  | choice alternatives =>
    rw [signed] at sign marked
    have inside := isSettled_joinWithSpaces fun a ha => (sign.2 a ha).isSettled
    refine (inside.append marked fun c hc => ?_).cons (isDivider_signs '{' (by simp))
    obtain rfl : '}' = c := by simpa [Sign.last] using hc
    have closing : IsDivider '}' := isDivider_signs '}' (by simp)
    exact ⟨closing.1, closing.2.2⟩
  | _ =>
    rw [signed] at marked
    exact marked

/-! ## Braces -/

/-- The pieces of a written slot. -/
def Sign.piece : Sign → Piece
  | choice alternatives => .braced (joinWithSpaces alternatives)
  | letter c => .plain c
  | vowel => .plain 'V'
  | wildcard => .plain '-'
  | deletion => .plain 'ø'

def WrittenSlot.pieces (w : WrittenSlot) : List Piece := w.sign.piece :: w.attached.map .plain

/-- The character that a sign gives way to when its segment is flattened. -/
def Sign.flat : Sign → Char
  | choice _ => placeholder
  | letter c => c
  | vowel => 'V'
  | wildcard => '-'
  | deletion => 'ø'

theorem Braced.append {a b : Text} {ps qs : List Piece} (ha : Braced a ps) (hb : Braced b qs) :
    Braced (a ++ b) (ps ++ qs) := by
  induction ha with
  | nil => exact hb
  | plain notOpening notClosing _ ih => exact .plain notOpening notClosing ih
  | braced closes _ ih =>
    rw [List.append_assoc, List.cons_append]
    exact .braced closes ih

theorem braced_map_plain {t : Text} (noBrace : ∀ c ∈ t, c ≠ '{' ∧ c ≠ '}') :
    Braced t (t.map .plain) := by
  induction t with
  | nil => exact .nil
  | cons c t ih =>
    obtain ⟨here, later⟩ := List.forall_mem_cons.1 noBrace
    exact .plain here.1 here.2 (ih later)

theorem MarksFollow.isOrdinary_of_mem {c : Char} {marks : Text} (h : MarksFollow c marks) :
    ∀ m ∈ marks, isOrdinary m = true := fun m hm => isOrdinary_of_isMark (h.marked m hm)

theorem Text.IsAlternative.isOrdinary_of_mem {a : Text} (h : a.IsAlternative) :
    ∀ c ∈ a, isOrdinary c = true := by
  obtain ⟨_, _, rfl, phoneme, follow⟩ := h.exists_cons
  exact List.forall_mem_cons.2 ⟨phoneme.ordinary, follow.isOrdinary_of_mem⟩

theorem WrittenSlot.IsWritable.braced {w : WrittenSlot} (h : w.IsWritable) :
    Braced w.text w.pieces := by
  have digits : ∀ n : Fin 10, subscriptDigit n ≠ '{' ∧ subscriptDigit n ≠ '}' := by decide
  have attached : Braced w.attached (w.attached.map .plain) := by
    refine braced_map_plain fun c hc => ?_
    rcases List.mem_append.1 hc with mark | digit
    · obtain ⟨_, _, notOpening, notClosing, _⟩ := isOrdinary_iff.1 (h.mark.isOrdinary_of_mem c mark)
      exact ⟨notOpening, notClosing⟩
    · obtain ⟨n, _, rfl⟩ := List.mem_map.1 digit
      exact digits n
  have sign := h.sign
  rw [WrittenSlot.text, WrittenSlot.pieces]
  cases signed : w.sign with
  | choice alternatives =>
    rw [signed] at sign
    refine .braced (fun inside => ?_) attached
    rcases Text.mem_intercalate inside with space | ⟨a, ha, member⟩
    · exact absurd space (by decide)
    · exact absurd ((sign.2 a ha).isOrdinary_of_mem '}' member) (by decide +kernel)
  | letter c =>
    rw [signed] at sign
    obtain ⟨_, _, notOpening, notClosing, _⟩ := isOrdinary_iff.1 sign.ordinary
    exact .plain notOpening notClosing attached
  | vowel => exact .plain (by decide) (by decide) attached
  | wildcard => exact .plain (by decide) (by decide) attached
  | deletion => exact .plain (by decide) (by decide) attached

/-- A group has a phoneme for each alternative. -/
theorem countUnits_joinWithSpaces {alternatives : List Text}
    (each : ∀ a ∈ alternatives, a.IsAlternative) :
    (joinWithSpaces alternatives).countUnits = alternatives.length := by
  have one {a : Text} (h : a.IsAlternative) : a.countUnits = 1 := by
    obtain ⟨c, marks, rfl, phoneme, follow⟩ := h.exists_cons
    have nothing : marks.countP isUnit = 0 := by
      refine List.countP_eq_zero.2 fun m hm => ?_
      simp [isUnit, follow.marked m hm]
    rw [Text.countUnits, List.countP_cons, nothing, phoneme.isUnit]
    rfl
  have later {as : List Text} (each : ∀ a ∈ as, a.IsAlternative) :
      Text.countUnits (as.flatMap (' ' :: ·)) = as.length := by
    have space : isUnit ' ' = false := by decide +kernel
    induction as with
    | nil => rfl
    | cons a as ih =>
      obtain ⟨here, rest⟩ := List.forall_mem_cons.1 each
      have first := one here
      have others := ih rest
      rw [Text.countUnits] at first others ⊢
      rw [List.flatMap_cons, List.countP_append, List.countP_cons, space, first, others,
        List.length_cons]
      simp [Nat.add_comm]
  cases alternatives with
  | nil => rfl
  | cons a as =>
    obtain ⟨here, rest⟩ := List.forall_mem_cons.1 each
    have first := one here
    have others := later rest
    rw [Text.countUnits] at first others ⊢
    rw [joinWithSpaces_cons, List.countP_append, first, others, List.length_cons, Nat.add_comm]

/-- A written slot flattened, and its group. -/
theorem WrittenSlot.IsWritable.flattened {w : WrittenSlot} (h : w.IsWritable) :
    w.pieces.flatMap Piece.flattened = w.sign.flat :: w.attached ∧
      ((w.pieces.filterMap Piece.content?).filter fun content => 1 < content.countUnits) =
        w.slot.symbol.content?.toList := by
  have attached : (w.attached.map Piece.plain).flatMap Piece.flattened = w.attached := by
    rw [List.flatMap_map]
    exact List.flatMap_singleton' w.attached
  have sign := h.sign
  rw [WrittenSlot.pieces, List.flatMap_cons, attached, WrittenSlot.slot]
  cases signed : w.sign with
  | choice alternatives =>
    rw [signed] at sign
    have several : 1 < (joinWithSpaces alternatives).countUnits := by
      rw [countUnits_joinWithSpaces sign.2]
      exact sign.1
    simp [Sign.piece, Piece.flattened, Sign.flat, several, Piece.content?, Sign.symbol,
      Symbol.content?]
  | _ => simp [Sign.piece, Piece.flattened, Sign.flat, Piece.content?, Sign.symbol,
      Symbol.content?]

/-! ## Reading -/

section Reading

variable {w : WrittenSlot} {ws : List WrittenSlot} {groups : List Text}

theorem WrittenSlot.IsWritable.isUnit_flat (h : w.IsWritable) : isUnit w.sign.flat = true := by
  have sign := h.sign
  cases signed : w.sign with
  | letter c =>
    rw [signed] at sign
    exact sign.isUnit
  | choice alternatives =>
    show isUnit placeholder = true
    decide +kernel
  | _ => decide +kernel

/-- A sign takes its group from the queue. -/
theorem readSymbol_flat (h : w.IsWritable) :
    readSymbol (w.slot.symbol.content?.toList ++ groups) w.sign.flat = .ok (w.sign.symbol, groups) := by
  have sign := h.sign
  rw [WrittenSlot.slot]
  cases signed : w.sign with
  | letter c =>
    rw [signed] at sign
    exact readSymbol_of_isOrdinary sign.ordinary
  | choice alternatives =>
    simp [readSymbol, Sign.flat, Sign.symbol, Symbol.content?]
  | _ => rfl

/-- What follows a sign is read as the marks and the coindex of its slot. -/
theorem openSlots_written (h : w.IsWritable) (t : Text) :
    openSlots (w.slot.symbol.content?.toList ++ groups) w.sign.flat (w.attached ++ t) =
      readSlots w.slot groups t := by
  have marked : ∀ m ∈ w.mark, isMark m = true ∧ isOrdinary m = true :=
    fun m hm => ⟨h.mark.marked m hm, h.mark.isOrdinary_of_mem m hm⟩
  rw [openSlots, readSymbol_flat h]
  show readSlots { symbol := w.sign.symbol } groups (w.attached ++ t) = _
  rw [WrittenSlot.attached, List.append_assoc, readSlots_marks_append marked, List.nil_append,
    WrittenSlot.slot]
  cases w.coindex with
  | none => rfl
  | some n =>
    have digit := subscriptValue?_subscriptDigit n
    obtain ⟨notBlank, notMark⟩ := not_isBlank_and_not_isMark_of_subscriptValue? digit
    show readSlots _ groups (subscriptDigit n :: t) = _
    rw [readSlots]
    simp [notBlank, notMark, digit]

theorem filterMap_content?_cons :
    (w :: ws).filterMap (·.slot.symbol.content?) =
      w.slot.symbol.content?.toList ++ ws.filterMap (·.slot.symbol.content?) := by
  rw [List.filterMap_cons]
  cases w.slot.symbol.content? <;> rfl

/-- Slots that follow an open slot are read one by one. -/
theorem readSlots_flat (writable : ∀ w ∈ ws, w.IsWritable) (slot : Slot) :
    readSlots slot (ws.filterMap (·.slot.symbol.content?))
        (ws.flatMap fun w => ' ' :: w.sign.flat :: w.attached) =
      .ok (slot :: ws.map WrittenSlot.slot) := by
  induction ws generalizing slot with
  | nil => rfl
  | cons w ws ih =>
    obtain ⟨here, later⟩ := List.forall_mem_cons.1 writable
    have space : isUnit ' ' = false := by decide +kernel
    have nothing : slot.attach ' ' = slot := by
      have noMark : [' '].filter isMark = [] := by decide +kernel
      have noDigit : subscriptValue? ' ' = none := by decide
      rw [Slot.attach, noMark, noDigit, List.append_nil, Option.none_or]
    rw [List.flatMap_cons, List.cons_append, readSlots_of_not_isUnit space, nothing,
      List.cons_append, readSlots_of_isUnit here.isUnit_flat, filterMap_content?_cons,
      openSlots_written here,
      ih later]
    rfl

/-- A row of written slots is read from its beginning. -/
theorem segmentSlots_flat (writable : ∀ w ∈ ws, w.IsWritable) :
    segmentSlots (ws.filterMap (·.slot.symbol.content?))
        (joinWithSpaces (ws.map fun w => w.sign.flat :: w.attached)) =
      .ok (ws.map WrittenSlot.slot) := by
  cases ws with
  | nil => rfl
  | cons w ws =>
    obtain ⟨here, later⟩ := List.forall_mem_cons.1 writable
    have visible : isBlank w.sign.flat = false := (isUnit_iff.1 here.isUnit_flat).1
    have whole : joinWithSpaces ((w :: ws).map fun w => w.sign.flat :: w.attached) =
        w.sign.flat :: (w.attached ++ ws.flatMap fun w => ' ' :: w.sign.flat :: w.attached) := by
      rw [List.map_cons, joinWithSpaces_cons, List.flatMap_map, List.cons_append]
    rw [whole, segmentSlots_of_cons (List.dropWhile_cons_of_neg (by simp [visible])),
      if_pos here.isUnit_flat, filterMap_content?_cons, openSlots_written here,
      readSlots_flat later]
    rfl

end Reading

/-! ## Alternatives -/

theorem alternativesFrom_marks_append {unit marks : Text} (marked : ∀ m ∈ marks, isMark m = true)
    (t : Text) : alternativesFrom unit (marks ++ t) = alternativesFrom (unit ++ marks) t := by
  induction marks generalizing unit with
  | nil => simp
  | cons m marks ih =>
    obtain ⟨mark, later⟩ := List.forall_mem_cons.1 marked
    obtain ⟨visible, noDigit, _⟩ := isOrdinary_iff.1 (isOrdinary_of_isMark mark)
    rw [List.cons_append, alternativesFrom, if_neg (by simp [visible, noDigit]), if_pos mark,
      ih later]
    simp

/-- Alternatives that follow an open one are split off one by one. -/
theorem alternativesFrom_flatMap_space {alternatives : List Text}
    (each : ∀ a ∈ alternatives, a.IsAlternative) (unit : Text) :
    alternativesFrom unit (alternatives.flatMap (' ' :: ·)) = unit :: alternatives := by
  induction alternatives generalizing unit with
  | nil => rfl
  | cons a as ih =>
    obtain ⟨here, later⟩ := List.forall_mem_cons.1 each
    obtain ⟨c, marks, rfl, phoneme, follow⟩ := here.exists_cons
    obtain ⟨visible, noDigit, _⟩ := isOrdinary_iff.1 phoneme.ordinary
    have space : isBlank ' ' = true := by decide +kernel
    rw [List.flatMap_cons, List.cons_append, alternativesFrom, if_pos (by simp [space]),
      List.cons_append, alternativesFrom, if_neg (by simp [visible, noDigit]),
      if_neg (by simp [phoneme.letter]), alternativesFrom_marks_append follow.marked, ih later]
    rfl

/-- The alternatives of a written group are read back from its content. -/
theorem alternatives_joinWithSpaces {alternatives : List Text}
    (each : ∀ a ∈ alternatives, a.IsAlternative) :
    (joinWithSpaces alternatives).alternatives = alternatives := by
  cases alternatives with
  | nil => rfl
  | cons a as =>
    obtain ⟨here, later⟩ := List.forall_mem_cons.1 each
    obtain ⟨c, marks, rfl, phoneme, follow⟩ := here.exists_cons
    obtain ⟨visible, noDigit, _⟩ := isOrdinary_iff.1 phoneme.ordinary
    rw [joinWithSpaces_cons, List.cons_append, Text.alternatives,
      List.dropWhile_cons_of_neg (by simp [visible, noDigit])]
    show alternativesFrom [c] (marks ++ as.flatMap (' ' :: ·)) = _
    rw [alternativesFrom_marks_append follow.marked, alternativesFrom_flatMap_space later]
    rfl

/-! ## Parsing -/

/-- How written slots that follow a space are cut at their braces and flattened. -/
theorem exists_braced_flatMap_space {ws : List WrittenSlot} (writable : ∀ w ∈ ws, w.IsWritable) :
    ∃ ps, Braced (ws.flatMap fun w => ' ' :: w.text) ps ∧
      ps.flatMap Piece.flattened = (ws.flatMap fun w => ' ' :: w.sign.flat :: w.attached) ∧
      ((ps.filterMap Piece.content?).filter fun content => 1 < content.countUnits) =
        ws.filterMap (·.slot.symbol.content?) := by
  induction ws with
  | nil => exact ⟨[], .nil, rfl, rfl⟩
  | cons w ws ih =>
    obtain ⟨here, later⟩ := List.forall_mem_cons.1 writable
    obtain ⟨ps, braced, flat, groups⟩ := ih later
    obtain ⟨ownFlat, ownGroup⟩ := here.flattened
    refine ⟨.plain ' ' :: (w.pieces ++ ps), ?_, ?_, ?_⟩
    · exact .plain (by decide) (by decide) (here.braced.append braced)
    · rw [List.flatMap_cons, List.flatMap_append, ownFlat, flat, List.flatMap_cons]
      rfl
    · rw [List.filterMap_cons_none rfl, List.filterMap_append, List.filter_append, ownGroup, groups,
        filterMap_content?_cons]

theorem exists_braced_joinWithSpaces {ws : List WrittenSlot} (writable : ∀ w ∈ ws, w.IsWritable) :
    ∃ ps, Braced (joinWithSpaces (ws.map WrittenSlot.text)) ps ∧
      ps.flatMap Piece.flattened = joinWithSpaces (ws.map fun w => w.sign.flat :: w.attached) ∧
      ((ps.filterMap Piece.content?).filter fun content => 1 < content.countUnits) =
        ws.filterMap (·.slot.symbol.content?) := by
  cases ws with
  | nil => exact ⟨[], .nil, rfl, rfl⟩
  | cons w ws =>
    obtain ⟨here, later⟩ := List.forall_mem_cons.1 writable
    obtain ⟨ps, braced, flat, groups⟩ := exists_braced_flatMap_space later
    obtain ⟨ownFlat, ownGroup⟩ := here.flattened
    refine ⟨w.pieces ++ ps, ?_, ?_, ?_⟩
    · rw [List.map_cons, joinWithSpaces_cons, List.flatMap_map]
      exact here.braced.append braced
    · rw [List.flatMap_append, ownFlat, flat, List.map_cons, joinWithSpaces_cons, List.flatMap_map]
    · rw [List.filterMap_append, List.filter_append, ownGroup, groups, filterMap_content?_cons]

theorem isSettled_of_writable {ws : List WrittenSlot} (writable : ∀ w ∈ ws, w.IsWritable) :
    (joinWithSpaces (ws.map WrittenSlot.text)).IsSettled := by
  refine isSettled_joinWithSpaces fun t ht => ?_
  obtain ⟨w, hw, rfl⟩ := List.mem_map.1 ht
  exact (writable w hw).isSettled

/-- A segment is parsed to the slots that it is written with when it is prepared. -/
theorem parse_of_prepared {ws : List WrittenSlot} (writable : ∀ w ∈ ws, w.IsWritable)
    {segment : Text} (prepared : segment.prepared = joinWithSpaces (ws.map WrittenSlot.text)) :
    Form.parse segment = .ok {
      slots := ws.map WrittenSlot.slot
      groups := ws.filterMap (·.slot.symbol.content?) } := by
  obtain ⟨ps, braced, flat, groups⟩ := exists_braced_joinWithSpaces writable
  obtain ⟨cut, paired⟩ := braced_iff.1 braced
  rw [← prepared] at paired
  rw [parse_of_paired paired, prepared, withoutGroups_eq, groups_eq, cut, flat, groups,
    segmentSlots_flat writable]
  rfl

/-- Slots that are written with spaces between them are parsed back, and the alternatives of a group
    are those that were written. -/
theorem parse_joinWithSpaces {ws : List WrittenSlot} (writable : ∀ w ∈ ws, w.IsWritable) :
    Form.parse (joinWithSpaces (ws.map WrittenSlot.text)) = .ok {
        slots := ws.map WrittenSlot.slot
        groups := ws.filterMap (·.slot.symbol.content?) } ∧
      ∀ w ∈ ws, ∀ alternatives, w.sign = .choice alternatives →
        w.slot.symbol.text.alternatives = alternatives := by
  constructor
  · exact parse_of_prepared writable (isSettled_of_writable writable).prepared_eq
  · intro w hw alternatives signed
    have sign := (writable w hw).sign
    rw [signed] at sign
    rw [WrittenSlot.slot, signed]
    exact alternatives_joinWithSpaces sign.2

/-- A slot for each sign: a letter with two marks, a group of letters that are also read as a
    digraph, a vowel with a mark, the rest of the word, and nothing. -/
def everySign : List WrittenSlot := [
  { sign := .letter 'a', mark := ['\u0323', '\u0301'], coindex := some 3 },
  { sign := .choice [['t'], ['h'], ['s', '\u0301']], mark := ['\u0300'], coindex := some 0 },
  { sign := .vowel, mark := ['\u0301'], coindex := none },
  { sign := .wildcard, mark := [], coindex := none },
  { sign := .deletion, mark := [], coindex := none }]

theorem parse_joinWithSpaces_of_everySign :
    (∀ w ∈ everySign, w.IsWritable) ∧
      joinWithSpaces (everySign.map WrittenSlot.text) =
        ['a', '\u0323', '\u0301', '₃', ' ', '{', 't', ' ', 'h', ' ', 's', '\u0301', '}', '\u0300',
          '₀', ' ', 'V', '\u0301', ' ', '-', ' ', 'ø'] ∧
      Form.parse (joinWithSpaces (everySign.map WrittenSlot.text)) = .ok {
        slots := [
          { symbol := .literal 'a', mark := ['\u0323', '\u0301'], coindex := some 3 },
          { symbol := .group ['t', ' ', 'h', ' ', 's', '\u0301'], mark := ['\u0300'],
            coindex := some 0 },
          { symbol := .vowel, mark := ['\u0301'] }, { symbol := .wildcard },
          { symbol := .deletion }]
        groups := [['t', ' ', 'h', ' ', 's', '\u0301']] } ∧
      ∀ w ∈ everySign, ∀ alternatives, w.sign = .choice alternatives →
        w.slot.symbol.text.alternatives = alternatives := by
  have writable : ∀ w ∈ everySign, w.IsWritable := by decide +kernel
  exact ⟨writable, rfl, parse_joinWithSpaces writable⟩

end SoundLaw
