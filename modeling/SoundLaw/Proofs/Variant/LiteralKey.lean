/-
  SoundLaw.Proofs.Variant.LiteralKey

  Which phoneme a literal stands for. A slot is written with letters and marks, and a literal is such
  a letter with marks, spelled out and composed; matching folds and decomposes it again. This gives
  the letter and the marks back, unless the letter stands in for a digraph and the digraph is lost on
  the way (`literal_stands_for_unit`): the first mark may join its last letter, and `ss`, the
  digraph of the long `ſ`, is none of rule notation.
-/
import SoundLaw.Proofs.Match.Binding
import SoundLaw.Proofs.Spelling.DigraphLetters
import SoundLaw.Proofs.Text.Marks
import SoundLaw.Proofs.Variant.Literal

namespace SoundLaw

/-- The phonemes that a slot is written with, each with the marks that follow it. -/
def Symbol.units : Symbol → List Text
  | literal c => [[c]]
  | group content => content.alternatives
  | vowel | wildcard | deletion => []

/-- If a letter stands in for a digraph, the literal of the letter with marks begins with this
    digraph, and it is one of rule notation. -/
def KeepsDigraph (b : Char) (marks : Text) : Prop :=
  isStandIn b = true →
    spellOut b ∈ DigraphTable.rules.map (·.1) ∧ spellOut b <+: Text.literal (b :: marks)

instance (b : Char) (marks : Text) : Decidable (KeepsDigraph b marks) :=
  inferInstanceAs (Decidable (_ → _))

/-! ## Units -/

/-- The characters of a unit do not decompose, and a literal of the slot is made from it. -/
theorem Symbol.IsPrepared.unit {symbol : Symbol} (h : symbol.IsPrepared) {unit : Text}
    (member : unit ∈ symbol.units) :
    (∀ c ∈ unit, decompose c = [c]) ∧ Text.literal unit ∈ symbol.literals := by
  cases symbol with
  | literal c =>
    rw [Symbol.units, List.mem_singleton] at member
    rw [member]
    exact ⟨List.forall_mem_singleton.2 h, List.mem_singleton.2 rfl⟩
  | group content =>
    have inside := (mem_alternatives member).2
    exact ⟨fun c hc => h.final c (inside c hc), List.mem_map_of_mem member⟩
  | vowel => exact absurd member (by simp [Symbol.units])
  | wildcard => exact absurd member (by simp [Symbol.units])
  | deletion => exact absurd member (by simp [Symbol.units])

/-! ## Spelling out and composing -/

/-- A digraph that is kept with marks is kept without them. -/
theorem KeepsDigraph.bare {b : Char} {marks : Text} (h : KeepsDigraph b marks) :
    KeepsDigraph b [] := by
  intro standIn
  have composed : (DigraphTable.words.all fun d => d.1.nfc == d.1) = true := by decide +kernel
  refine ⟨(h standIn).1, ?_⟩
  obtain ⟨d, hd, _, spelled⟩ := exists_spelling_of_isStandIn standIn
  have same := beq_iff_eq.1 (List.all_eq_true.1 composed d hd)
  simp [Text.literal, Text.spelledOut, spelled, same]

/-- No mark stands in for a digraph. -/
theorem spelledOut_of_marks {marks : Text} (marked : ∀ m ∈ marks, isMark m = true) :
    marks.spelledOut = marks := by
  have letters : ∀ d ∈ DigraphTable.words, d.2.all (fun c => !isMark c) = true := by
    decide +kernel
  have same : ∀ m ∈ marks, spellOut m = [m] := by
    intro m hm
    rcases spellOut_cases m with ⟨_, same⟩ | ⟨_, d, hd, standIn, _⟩
    · exact same
    · have letter := List.all_eq_true.1 (letters d hd) m (by simp [standIn])
      rw [marked m hm] at letter
      exact absurd letter (by simp)
  rw [Text.spelledOut, List.flatMap_congr same]
  exact List.flatMap_singleton' marks

theorem literal_eq_nfc {b : Char} {marks : Text} (marked : ∀ m ∈ marks, isMark m = true) :
    Text.literal (b :: marks) = Text.nfc (spellOut b ++ marks) := by
  rw [Text.literal, Text.spelledOut, List.flatMap_cons]
  exact congrArg (fun t => Text.nfc (spellOut b ++ t)) (spelledOut_of_marks marked)

/-! ## Folding a literal

What comes before the last letter of a digraph is folded by itself if the last letter has a mark on
it, and so is a letter that stands in for no digraph. -/

/-- A letter that stands in for nothing is read back with its marks. -/
theorem fold_literal_of_letter {b : Char} {marks : Text} (spelled : spellOut b = [b])
    (final : decompose b = [b]) (letter : isMark b = false)
    (marked : ∀ m ∈ marks, isMark m = true) :
    ((Text.literal (b :: marks)).fold DigraphTable.rules).base = [b] ∧
      ((Text.literal (b :: marks)).fold DigraphTable.rules).marks = marks.nfd := by
  obtain ⟨c, rest, composed, _, restMarked, _⟩ := exists_nfc_eq_letter_marks final letter marked
  have whole : Text.nfd (c :: rest) = b :: marks.nfd := by
    rw [← composed, Text.nfd_nfc, nfd_cons_of_final final letter]
  have folded : Text.fold DigraphTable.rules (c :: rest) = c :: rest := by
    have foreign : ∀ m ∈ rest, ¬IsBareLetter m :=
      fun m hm => not_isBareLetter_of_isMark (restMarked m hm)
    rw [← List.singleton_append, fold_rules_append foreign, fold_rules_singleton]
  rw [literal_eq_nfc marked, spelled, List.singleton_append, composed, folded]
  exact base_eq_and_marks_eq whole letter (isMark_of_mem_nfd marked)

/-- Whether composing keeps the last letter of a digraph from the letters before it, and folding
    these and adding the last letter gives two letters, which are not both of Hangul. -/
def endsInLetter (d : Text × Text) (front : Text) (e : Char) : Bool :=
  d.1 == front ++ [e] && decompose e == [e] && !isMark e && e.toNat / 256 != 0x11 &&
    front.nfc == front &&
    (front.fold DigraphTable.rules).base == front.fold DigraphTable.rules &&
    (Text.lower (front.fold DigraphTable.rules ++ [e])).length == 2 &&
    (Text.lower (front.fold DigraphTable.rules ++ [e])).any fun c => c.toNat / 256 != 0x11

/-- Every digraph of words ends in a letter of its own. -/
theorem endsInLetter_words : ∀ d ∈ DigraphTable.words,
    d.1.getLast?.any (endsInLetter d d.1.dropLast) = true := by
  decide +kernel

/-- Folding by rule notation gives back the stand-in of a digraph, or folds it up to its last
    letter. -/
theorem fold_rules_words : ∀ d ∈ DigraphTable.words,
    (d.1 ∈ DigraphTable.rules.map (·.1) → Text.fold DigraphTable.rules d.1 = d.2) ∧
      (d.1 ∉ DigraphTable.rules.map (·.1) → Text.fold DigraphTable.rules d.1 =
        Text.fold DigraphTable.rules d.1.dropLast ++ d.1.getLast?.toList) := by
  decide +kernel

/-- The literal of a digraph with marks: all that the marks can change is its last letter. -/
theorem exists_literal_eq_append {b e : Char} {front marks : Text} (spelled : spellOut b = front ++ [e])
    (composedFront : front.nfc = front) (final : decompose e = [e]) (letter : isMark e = false)
    (apart : e.toNat / 256 ≠ 0x11) (marked : ∀ m ∈ marks, isMark m = true) :
    ∃ c rest, Text.literal (b :: marks) = front ++ c :: rest ∧ isMark c = false ∧
      (∀ m ∈ rest, ¬IsBareLetter m) ∧ (c = e ∨ ¬IsBareLetter c) ∧
      Text.nfd (c :: rest) = e :: marks.nfd := by
  obtain ⟨c, rest, composed, plain, restMarked, joined⟩ :=
    exists_nfc_eq_letter_marks final letter marked
  refine ⟨c, rest, ?_, plain, fun m hm => not_isBareLetter_of_isMark (restMarked m hm), joined, ?_⟩
  · rw [literal_eq_nfc marked, spelled, List.append_assoc, List.singleton_append, Text.nfc_append,
      composedFront, composed]
    · exact fun x hx => Option.mem_some_iff.1 hx ▸ letter
    · exact fun x _ y hy => hangulSyllable?_eq_none (Or.inl (Option.mem_some_iff.1 hy ▸ apart)) x
  · rw [← composed, Text.nfd_nfc, nfd_cons_of_final final letter]

/-- A letter with marks that is left over behind folded letters is one letter more. -/
theorem base_and_marks_of_front {front rest marks : Text} {c e : Char} (plain : isMark c = false)
    (own : front.base = front) (letter : isMark e = false) (marked : ∀ m ∈ marks, isMark m = true)
    (decomposed : Text.nfd (c :: rest) = e :: marks.nfd) :
    (front ++ c :: rest).base = front ++ [e] ∧ (front ++ c :: rest).marks = marks.nfd := by
  have begins : ∀ x ∈ (c :: rest).head?, isMark x = false :=
    fun x hx => Option.mem_some_iff.1 hx ▸ plain
  have unmarked : front.marks = [] :=
    marks_of_letters fun x hx => letters_of_mem_base _ x (own.symm ▸ hx)
  obtain ⟨base, marks⟩ := base_append_and_marks_append (a := front) begins
  obtain ⟨lastBase, lastMarks⟩ :=
    base_eq_and_marks_eq decomposed letter (isMark_of_mem_nfd marked)
  rw [base, marks, own, unmarked, lastBase, lastMarks]
  exact ⟨rfl, rfl⟩

/-- A stand-in is read back with its marks if its literal keeps the digraph, and with a key of two
    letters, and the marks, if not. -/
theorem fold_literal_of_standIn {b : Char} {marks : Text} {d : Text × Text}
    (hd : d ∈ DigraphTable.words) (standIn : d.2 = [b]) (spelled : spellOut b = d.1)
    (final : decompose b = [b]) (letter : isMark b = false)
    (marked : ∀ m ∈ marks, isMark m = true) :
    (d.1 ∈ DigraphTable.rules.map (·.1) ∧ d.1 <+: Text.literal (b :: marks) →
      ((Text.literal (b :: marks)).fold DigraphTable.rules).base = [b] ∧
        ((Text.literal (b :: marks)).fold DigraphTable.rules).marks = marks.nfd) ∧
      (¬(d.1 ∈ DigraphTable.rules.map (·.1) ∧ d.1 <+: Text.literal (b :: marks)) →
        ((Text.literal (b :: marks)).fold DigraphTable.rules).base.lower.length = 2 ∧
          (∃ c ∈ ((Text.literal (b :: marks)).fold DigraphTable.rules).base.lower,
            c.toNat / 256 ≠ 0x11) ∧
          ((Text.literal (b :: marks)).fold DigraphTable.rules).marks = marks.nfd) := by
  obtain ⟨e, last, checked⟩ := (Option.any_eq_true _ _).1 (endsInLetter_words d hd)
  simp only [endsInLetter, Bool.and_eq_true, beq_iff_eq, Bool.not_eq_true', bne_iff_ne,
    List.any_eq_true] at checked
  obtain ⟨⟨⟨⟨⟨⟨⟨whole, lastFinal⟩, lastLetter⟩, apart⟩, composedFront⟩, base⟩, two⟩, other⟩ := checked
  obtain ⟨listed, unlisted⟩ := fold_rules_words d hd
  -- From here on, what precedes the last letter is known by these facts only.
  generalize d.1.dropLast = front at *
  obtain ⟨c, rest, literal, plain, foreign, joined, decomposed⟩ := exists_literal_eq_append
    (spelled.trans whole) composedFront lastFinal lastLetter apart marked
  have kept : d.1 <+: Text.literal (b :: marks) ↔ e = c := by
    rw [literal, whole, List.prefix_append_right_inj, List.cons_prefix_cons]
    simp
  rw [kept, literal]
  constructor
  · -- The digraph is read as one unit again, and the marks stay behind it.
    rintro ⟨member, rfl⟩
    have folded : Text.fold DigraphTable.rules (front ++ e :: rest) = b :: rest := by
      rw [List.append_cons, ← whole, fold_rules_append foreign, listed member, standIn,
        List.singleton_append]
    rw [nfd_cons_of_final lastFinal lastLetter, List.cons.injEq] at decomposed
    rw [folded]
    refine base_eq_and_marks_eq ?_ letter (isMark_of_mem_nfd marked)
    rw [nfd_cons_of_final final letter, decomposed.2]
  · -- The last letter is left over in either case, so that the base has one letter too many.
    intro lost
    have folded : Text.fold DigraphTable.rules (front ++ c :: rest) =
        Text.fold DigraphTable.rules front ++ c :: rest := by
      by_cases same : e = c
      · -- The digraph is there, but it is none of rule notation.
        have member : d.1 ∉ DigraphTable.rules.map (·.1) := fun member => lost ⟨member, same⟩
        rw [← same, List.append_cons, ← whole, fold_rules_append foreign, unlisted member, last,
          List.append_assoc]
        rfl
      · -- A mark has joined the last letter.
        have composite : ¬IsBareLetter c := joined.resolve_left (Ne.symm same)
        exact fold_rules_append (List.forall_mem_cons.2 ⟨composite, foreign⟩)
    obtain ⟨letters, behind⟩ := base_and_marks_of_front plain base lastLetter marked decomposed
    rw [folded, letters, behind]
    exact ⟨two, other, rfl⟩

/-! ## Literals and units -/

/-- A letter that does not decompose has one letter as its lower case. -/
theorem length_lower_of_final {b : Char} (final : decompose b = [b]) :
    (Text.lower [b]).length = 1 := by
  have dotted : b ≠ 'İ' := by
    rintro rfl
    exact absurd final (by decide +kernel)
  rw [Text.lower, lowerFrom, lowerFrom, List.append_nil, lowerBetween, if_neg dotted]
  split
  · split <;> rfl
  · rfl

section Units

variable {b : Char} {marks : Text} (final : decompose b = [b]) (letter : isMark b = false)
  (marked : ∀ m ∈ marks, isMark m = true)

include final letter marked

/-- A literal that keeps its digraph is read back as the letter with its marks. -/
theorem literal_of_keepsDigraph (keeps : KeepsDigraph b marks) :
    (Text.literal (b :: marks)).literalKey = Text.lower [b] ∧
      (Text.literal (b :: marks)).literalMarks = Text.marks (b :: marks) := by
  have unitMarks : Text.marks (b :: marks) = marks.nfd :=
    (base_eq_and_marks_eq (nfd_cons_of_final final letter marks) letter
      (isMark_of_mem_nfd marked)).2
  have readBack : ((Text.literal (b :: marks)).fold DigraphTable.rules).base = [b] ∧
      ((Text.literal (b :: marks)).fold DigraphTable.rules).marks = marks.nfd := by
    rcases spellOut_cases b with ⟨_, spelled⟩ | ⟨isStandIn, d, hd, standIn, spelled⟩
    · exact fold_literal_of_letter spelled final letter marked
    · exact (fold_literal_of_standIn hd standIn spelled final letter marked).1
        (spelled ▸ keeps isStandIn)
  exact ⟨by rw [Text.literalKey, readBack.1], by rw [Text.literalMarks, readBack.2, unitMarks]⟩

/-- A literal that loses its digraph has a key of two letters, which no phoneme has. -/
theorem literalKey_of_not_keepsDigraph (loses : ¬KeepsDigraph b marks) :
    (Text.literal (b :: marks)).literalKey.length = 2 ∧
      ∃ c ∈ (Text.literal (b :: marks)).literalKey, c.toNat / 256 ≠ 0x11 := by
  rw [KeepsDigraph, Classical.not_imp] at loses
  obtain ⟨isStandIn, missing⟩ := loses
  obtain ⟨d, hd, standIn, spelled⟩ := exists_spelling_of_isStandIn isStandIn
  obtain ⟨two, other, _⟩ :=
    (fold_literal_of_standIn hd standIn spelled final letter marked).2 (spelled ▸ missing)
  exact ⟨two, other⟩

/-- The marks of a literal are those of its letter, also if it loses its digraph. -/
theorem literalMarks_literal : (Text.literal (b :: marks)).literalMarks = marks.nfd := by
  rw [Text.literalMarks]
  rcases spellOut_cases b with ⟨_, spelled⟩ | ⟨_, d, hd, standIn, spelled⟩
  · exact (fold_literal_of_letter spelled final letter marked).2
  · obtain ⟨kept, lost⟩ := fold_literal_of_standIn hd standIn spelled final letter marked
    by_cases keeps : d.1 ∈ DigraphTable.rules.map (·.1) ∧ d.1 <+: Text.literal (b :: marks)
    · exact (kept keeps).2
    · exact (lost keeps).2.2

/-- A literal that loses its digraph stands for another phoneme. -/
theorem literalKey_ne_of_not_keepsDigraph (loses : ¬KeepsDigraph b marks) :
    (Text.literal (b :: marks)).literalKey ≠ Text.lower [b] := by
  intro same
  have two := (literalKey_of_not_keepsDigraph final letter marked loses).1
  rw [same, length_lower_of_final final] at two
  omega

end Units

/-- A slot of a parsed segment is written with units, and each unit gives a literal of it. Let the
    unit be a letter with marks. If the literal keeps the digraph that the letter stands in for, its
    key is the letter in lower case, its marks are those of the unit, and it matches the phonemes of
    this key that have these marks. If not, it matches no phoneme of this key. -/
theorem literal_stands_for_unit {segment : Text} {form : Form}
    (parsed : Form.parse segment = .ok form) {s : Slot} (hs : s ∈ form.slots) {b : Char}
    {marks : Text} (unit : b :: marks ∈ s.symbol.units) (letter : isMark b = false)
    (marked : ∀ m ∈ marks, isMark m = true) :
    Text.literal (b :: marks) ∈ s.symbol.literals ∧
      (KeepsDigraph b marks →
        (Text.literal (b :: marks)).literalKey = Text.lower [b] ∧
          (Text.literal (b :: marks)).literalMarks = Text.marks (b :: marks) ∧
          ∀ p : Phoneme, p.isMatchedBy (Text.literal (b :: marks)) = true ↔
            p.key = Text.lower [b] ∧ ∀ m ∈ Text.marks (b :: marks), m ∈ p.marks) ∧
      (¬KeepsDigraph b marks →
        (Text.literal (b :: marks)).literalKey ≠ Text.lower [b] ∧
          ∀ p : Phoneme, p.key = Text.lower [b] →
            p.isMatchedBy (Text.literal (b :: marks)) = false) := by
  obtain ⟨final, member⟩ := (isPrepared_of_parse parsed s hs).unit unit
  have final := final b List.mem_cons_self
  refine ⟨member, fun keeps => ?_, fun loses => ?_⟩
  · obtain ⟨key, readMarks⟩ := literal_of_keepsDigraph final letter marked keeps
    refine ⟨key, readMarks, fun p => ?_⟩
    rw [Phoneme.isMatchedBy_iff, Phoneme.Fits, key, readMarks]
    exact and_congr_left' eq_comm
  · have other := literalKey_ne_of_not_keepsDigraph final letter marked loses
    refine ⟨other, fun p key => ?_⟩
    rw [← Bool.not_eq_true, Phoneme.isMatchedBy_iff]
    exact fun fits => other (fits.1.trans key)

-- An acute on the stand-in of `ch` leaves the digraph alone.
theorem literal_stands_for_unit_of_fricative :
    ∃ form, Form.parse ['{', 'x', '\u0301', 'k', '}'] = .ok form ∧
      ∃ s ∈ form.slots, ['x', '\u0301'] ∈ s.symbol.units ∧ isMark 'x' = false ∧
        (∀ m ∈ ['\u0301'], isMark m = true) ∧ KeepsDigraph 'x' ['\u0301'] ∧
        (Text.literal ['x', '\u0301']).literalKey = Text.lower ['x'] := by
  have parsed : Form.parse ['{', 'x', '\u0301', 'k', '}'] =
      .ok { slots := [{ symbol := .group ['x', '\u0301', 'k'] }],
            groups := [['x', '\u0301', 'k']] } := by
    apply eq_ok_of_toOption_eq_some
    decide +kernel
  have unit : ['x', '\u0301'] ∈ (Symbol.group ['x', '\u0301', 'k']).units := by decide +kernel
  have letter : isMark 'x' = false := by decide +kernel
  have marked : ∀ m ∈ ['\u0301'], isMark m = true := List.all_eq_true.1 (by decide +kernel)
  have keeps : KeepsDigraph 'x' ['\u0301'] := by decide +kernel
  have stands := literal_stands_for_unit parsed List.mem_cons_self unit letter marked
  exact ⟨_, parsed, _, List.mem_cons_self, unit, letter, marked, keeps, (stands.2.1 keeps).1⟩

/-- An acute on the stand-in of `ng` joins the `g`, and `ss`, which the long `ſ` stands in for, is no
    digraph of rule notation. Neither literal matches the phoneme that it is written for. -/
theorem literal_loses_digraph :
    (∃ form, Form.parse ['{', 'ŋ', '\u0301', 'k', '}'] = .ok form ∧
        ∃ s ∈ form.slots, ['ŋ', '\u0301'] ∈ s.symbol.units) ∧
      Text.literalKey (Text.literal ['ŋ', '\u0301']) = ['n', 'g'] ∧ Text.lower ['ŋ'] = ['ŋ'] ∧
      (phonemes DigraphTable.rules ['ŋ', '\u0301']).map
        (·.isMatchedBy (Text.literal ['ŋ', '\u0301'])) = [false] ∧
      (∃ form, Form.parse ['ſ'] = .ok form ∧ ∃ s ∈ form.slots, ['ſ'] ∈ s.symbol.units) ∧
      Text.literalKey (Text.literal ['ſ']) = ['s', 's'] ∧ Text.lower ['ſ'] = ['ſ'] ∧
      (phonemes DigraphTable.rules ['ſ']).map (·.isMatchedBy (Text.literal ['ſ'])) = [false] := by
  have group : Form.parse ['{', 'ŋ', '\u0301', 'k', '}'] =
      .ok { slots := [{ symbol := .group ['ŋ', '\u0301', 'k'] }],
            groups := [['ŋ', '\u0301', 'k']] } := by
    apply eq_ok_of_toOption_eq_some
    decide +kernel
  have letter : Form.parse ['ſ'] = .ok { slots := [{ symbol := .literal 'ſ' }], groups := [] } := by
    apply eq_ok_of_toOption_eq_some
    decide +kernel
  refine ⟨⟨_, group, _, List.mem_cons_self, by decide +kernel⟩, by decide +kernel, by decide +kernel,
    by decide +kernel, ⟨_, letter, _, List.mem_cons_self, by decide +kernel⟩, by decide +kernel,
    by decide +kernel, by decide +kernel⟩

end SoundLaw
