/-
  SoundLaw.Proofs.Spelling.Detection

  How the spelling convention of a word depends on its normal form. A word follows the single
  convention if one of its characters stands in for a digraph, and three of the stand-ins compose
  with a mark: a word that is spelled with them and their marks apart has stand-ins that its composed
  form has not. The other way round nothing happens: composing brings no stand-in in
  (`mem_of_mem_nfc`). A character that decomposes to a stand-in decomposes to it and a mark that it
  composes with. Marks of lower classes may come between the two in canonical order, but they do not
  keep them apart.
-/
import SoundLaw.Proofs.Text.Concatenation
import SoundLaw.Spelling.Convention

namespace SoundLaw

/-! ## Stand-ins -/

/-- A row of the tables whose code points include a stand-in decomposes to it and a mark that it
    composes with. -/
theorem mappings_of_standIn :
    (canonicalMappings.all fun page => page.2.all fun row => row.2.all fun n =>
      !(DigraphTable.words.any fun d => d.2.any fun s => Nat.beq s.toNat n) ||
        (row.2.head? == some n && row.2.length == 2 &&
          row.2.tail.all fun m =>
            combiningClass (Char.ofNat m) != 0 &&
              (composite? (Char.ofNat n) (Char.ofNat m)).isSome)) = true := by
  decide +kernel

theorem isStandIn_iff {c : Char} : isStandIn c = true ↔ ∃ d ∈ DigraphTable.words, d.2 = [c] := by
  simp [isStandIn]

/-- A stand-in is a letter that does not decompose. -/
theorem isStandIn_cases {c : Char} (h : isStandIn c = true) :
    combiningClass c = 0 ∧ decompose c = [c] := by
  have each : (DigraphTable.words.all fun d => d.2.all fun s =>
      combiningClass s == 0 && decompose s == [s]) = true := by decide +kernel
  obtain ⟨d, hd, same⟩ := isStandIn_iff.1 h
  have checked := List.all_eq_true.1 (List.all_eq_true.1 each d hd) c (by simp [same])
  rwa [Bool.and_eq_true, beq_iff_eq, beq_iff_eq] at checked

/-- No two characters compose to a stand-in. -/
theorem composite?_ne_of_isStandIn {c : Char} (h : isStandIn c = true) (first second : Char) :
    composite? first second ≠ some c := by
  intro joins
  have lengths := congrArg List.length (decompose_of_composite? joins)
  have one := length_decompose_pos first
  have two := length_decompose_pos second
  rw [(isStandIn_cases h).2, List.length_append, List.length_singleton] at lengths
  omega

/-- A character decomposes to a stand-in alone if it is one, and otherwise to a stand-in and a mark
    that it composes with. -/
theorem decompose_cases_of_isStandIn {c d : Char} (h : isStandIn c = true) (hc : c ∈ decompose d) :
    d = c ∨ ∃ m, decompose d = [c, m] ∧ combiningClass m ≠ 0 ∧
      (composite? c m).isSome = true := by
  rcases mem_decompose_cases hc with hangul | ⟨page, inPages, row, inPage, _, hn, mapped⟩ | same
  · -- No stand-in is a Hangul letter.
    have outside : (DigraphTable.words.all fun d => d.2.all fun s => s.toNat / 256 != 0x11) = true := by
      decide
    obtain ⟨digraph, listed, same⟩ := isStandIn_iff.1 h
    have apart := List.all_eq_true.1 (List.all_eq_true.1 outside digraph listed) c (by simp [same])
    rw [bne_iff_ne] at apart
    exact absurd hangul apart
  · have checked := List.all_eq_true.1 (List.all_eq_true.1
      (List.all_eq_true.1 mappings_of_standIn page inPages) row inPage) c.toNat hn
    have listed : (DigraphTable.words.any fun d => d.2.any fun s => Nat.beq s.toNat c.toNat) =
        true := by
      obtain ⟨digraph, listed, same⟩ := isStandIn_iff.1 h
      rw [List.any_eq_true]
      exact ⟨digraph, listed, by simp [same]⟩
    rw [listed, Bool.not_true, Bool.false_or] at checked
    simp only [Bool.and_eq_true, beq_iff_eq] at checked
    obtain ⟨⟨first, two⟩, joins⟩ := checked
    obtain ⟨k, m, codes⟩ := List.length_eq_two.1 two
    obtain rfl : k = c.toNat := by simpa [codes] using first
    have joins := List.all_eq_true.1 joins m (by simp [codes])
    rw [Char.ofNat_toNat, Bool.and_eq_true, bne_iff_ne] at joins
    refine Or.inr ⟨Char.ofNat m, ?_, joins.1, joins.2⟩
    rw [mapped, codes, List.map_cons, List.map_singleton, Char.ofNat_toNat]
  · exact Or.inl same

/-! ## Canonical order -/

/-- A text goes on with a character that `c` composes with, marks of lower classes apart. -/
def ComposesAhead (c : Char) (t : Text) : Prop :=
  ∃ lower m later, t = lower ++ m :: later ∧
    (∀ k ∈ lower, combiningClass k ≠ 0 ∧ combiningClass k < combiningClass m) ∧
    (composite? c m).isSome = true

/-- A character goes behind marks of lower classes. -/
theorem exists_insertMark_eq (m : Char) (t : Text) :
    ∃ lower later, t = lower ++ later ∧ insertMark m t = lower ++ m :: later ∧
      ∀ k ∈ lower, combiningClass k ≠ 0 ∧ combiningClass k < combiningClass m := by
  induction t with
  | nil => exact ⟨[], [], rfl, rfl, by simp⟩
  | cons d t ih =>
    rw [insertMark]
    split
    · next passes =>
      obtain ⟨lower, later, whole, inserted, below⟩ := ih
      refine ⟨d :: lower, later, by rw [whole]; rfl, by rw [inserted]; rfl, ?_⟩
      exact List.forall_mem_cons.2 ⟨passes, below⟩
    · exact ⟨[], d :: t, rfl, rfl, by simp⟩

/-- Every occurrence of `c` in a text composes ahead. -/
def AllComposeAhead (c : Char) (t : Text) : Prop :=
  ∀ front rest, t = front ++ c :: rest → ComposesAhead c rest

namespace AllComposeAhead

variable {c : Char} {t : Text}

theorem of_cons {d : Char} (h : AllComposeAhead c (d :: t)) : AllComposeAhead c t := by
  intro front rest whole
  exact h (d :: front) rest (by rw [whole]; rfl)

/-- Another character does not go beyond a starter, so it comes between none and what follows it. -/
theorem insertMark (h : AllComposeAhead c t) (starter : combiningClass c = 0) {d : Char}
    (other : d ≠ c) : AllComposeAhead c (insertMark d t) := by
  intro front rest whole
  obtain ⟨lower, later, rfl, inserted, below⟩ := exists_insertMark_eq d t
  rw [inserted] at whole
  rcases List.append_eq_append_iff.1 whole with ⟨between, _, tail⟩ | ⟨between, split, tail⟩
  · -- `c` stands behind the place of `d`.
    cases between with
    | nil => exact absurd (List.cons.inj tail).1 other
    | cons e between =>
      obtain ⟨rfl, rfl⟩ := List.cons.inj tail
      exact h (lower ++ between) rest (by simp)
  · -- `c` would be one of the marks that `d` goes behind, or `d` itself.
    cases between with
    | nil => exact absurd (List.cons.inj tail).1.symm other
    | cons e between =>
      obtain ⟨rfl, _⟩ := List.cons.inj tail
      exact absurd starter (below c (by simp [split])).1

/-- Characters other than `c` can be put in front. -/
theorem foldr_insertMark (h : AllComposeAhead c t) (starter : combiningClass c = 0) {marks : Text}
    (others : c ∉ marks) : AllComposeAhead c (marks.foldr SoundLaw.insertMark t) := by
  induction marks with
  | nil => exact h
  | cons d marks ih =>
    rw [List.mem_cons, not_or] at others
    exact (ih others.2).insertMark starter (Ne.symm others.1)

/-- A stand-in that no character of a text is composes ahead wherever a character decomposes to
    it. -/
theorem of_notMem (standIn : isStandIn c = true) (absent : c ∉ t) :
    AllComposeAhead c (Text.nfd t) := by
  have starter := (isStandIn_cases standIn).1
  induction t with
  | nil =>
    intro front rest whole
    exact absurd whole (by simp)
  | cons d t ih =>
    rw [List.mem_cons, not_or] at absent
    have ih : AllComposeAhead c (reorderMarks (t.flatMap decompose)) := ih absent.2
    rw [Text.nfd, List.flatMap_cons, reorderMarks_append]
    by_cases part : c ∈ decompose d
    · rcases decompose_cases_of_isStandIn standIn part with rfl | ⟨m, whole, mark, joins⟩
      · exact absurd rfl absent.1
      -- `d` decomposes to `c` and `m`, and `m` is the first of its class behind `c`.
      have other : m ≠ c := by
        rintro rfl
        exact mark starter
      rw [whole, List.foldr_cons, List.foldr_cons, List.foldr_nil, insertMark_of_starter starter]
      obtain ⟨lower, later, _, inserted, below⟩ :=
        exists_insertMark_eq m (reorderMarks (t.flatMap decompose))
      intro front rest split
      cases front with
      | nil =>
        obtain ⟨_, rfl⟩ := List.cons.inj split
        exact ⟨lower, m, later, inserted, below, joins⟩
      | cons e front =>
        exact ih.insertMark starter other front rest (List.cons.inj split).2
    · exact ih.foldr_insertMark starter part

end AllComposeAhead

/-! ## Composing -/

theorem reachesStarter_of_lower {kept : Text} {m : Char}
    (lower : ∀ k ∈ kept, combiningClass k < combiningClass m) : reachesStarter kept m = true := by
  cases kept with
  | nil => rfl
  | cons k kept =>
    rw [reachesStarter, decide_eq_true_eq]
    exact lower k List.mem_cons_self

/-- `ComposesAhead` where marks have been kept since the character. -/
def ComposesBeyond (c : Char) (kept t : Text) : Prop :=
  ∃ lower m later, t = lower ++ m :: later ∧
    (∀ k ∈ lower, combiningClass k ≠ 0 ∧ combiningClass k < combiningClass m) ∧
    (∀ k ∈ kept, combiningClass k < combiningClass m) ∧ (composite? c m).isSome = true

theorem ComposesAhead.beyond {c : Char} {t : Text} (h : ComposesAhead c t) :
    ComposesBeyond c [] t := by
  obtain ⟨lower, m, later, whole, below, joins⟩ := h
  exact ⟨lower, m, later, whole, below, by simp, joins⟩

/-- A character that does not compose is a mark that is kept, and something composes beyond it. -/
theorem ComposesBeyond.keep {c d : Char} {kept t : Text} (h : ComposesBeyond c kept (d :: t))
    (blocked : (if reachesStarter kept d then composite? c d else none) = none) :
    combiningClass d ≠ 0 ∧ ComposesBeyond c (d :: kept) t := by
  obtain ⟨lower, m, later, whole, below, keptBelow, joins⟩ := h
  cases lower with
  | nil =>
    obtain ⟨rfl, rfl⟩ := List.cons.inj whole
    rw [if_pos (reachesStarter_of_lower keptBelow)] at blocked
    exact absurd joins (by simp [blocked])
  | cons k lower =>
    obtain ⟨rfl, rfl⟩ := List.cons.inj whole
    obtain ⟨⟨mark, lowest⟩, below⟩ := List.forall_mem_cons.1 below
    exact ⟨mark, lower, m, later, rfl, below, List.forall_mem_cons.2 ⟨lowest, keptBelow⟩, joins⟩

/-- A stand-in that composes wherever it occurs does not stay in what is composed. -/
theorem notMem_composeOnto {c : Char} (standIn : isStandIn c = true) (starter : Char)
    (kept t : Text) (others : c ∉ kept) (ahead : AllComposeAhead c t)
    (beyond : starter = c → ComposesBeyond c kept t) : c ∉ composeOnto starter kept t := by
  have isStarter := (isStandIn_cases standIn).1
  fun_induction composeOnto starter kept t with
  | case1 starter kept =>
    -- A stand-in that is the starter has a mark ahead of it, but the text is at its end.
    have other : c ≠ starter := by
      rintro rfl
      obtain ⟨lower, m, later, empty, _⟩ := beyond rfl
      exact absurd empty (by simp)
    simp [other, others]
  | case2 starter kept d t joined found ih =>
    refine ih others ahead.of_cons fun same => ?_
    -- No composite is a stand-in.
    subst same
    split at found
    · exact absurd found (composite?_ne_of_isStandIn standIn _ _)
    · exact absurd found (by simp)
  | case3 starter kept d t blocked startsAgain ih =>
    -- What keeps a mark from a stand-in is another mark, and no starter.
    have other : c ≠ starter := by
      rintro rfl
      exact ((beyond rfl).keep blocked).1 startsAgain
    have later : c ∉ composeOnto d [] t := by
      refine ih (by simp) ahead.of_cons ?_
      rintro rfl
      exact (ahead [] t rfl).beyond
    simp [other, others, later]
  | case4 starter kept d t blocked mark ih =>
    refine ih ?_ ahead.of_cons ?_
    · rw [List.mem_cons, not_or]
      refine ⟨?_, others⟩
      rintro rfl
      exact mark isStarter
    · rintro rfl
      exact ((beyond rfl).keep blocked).2

/-- Composing a text brings no stand-in in. -/
theorem mem_of_mem_nfc {c : Char} {t : Text} (standIn : isStandIn c = true) (h : c ∈ t.nfc) :
    c ∈ t := by
  by_contra absent
  have ahead := AllComposeAhead.of_notMem standIn absent
  rw [Text.nfc] at h
  cases split : t.nfd with
  | nil => simp [split, composeMarks] at h
  | cons starter rest =>
    rw [split] at h ahead
    refine notMem_composeOnto standIn starter [] rest (by simp) ahead.of_cons ?_ h
    rintro rfl
    exact (ahead [] rest rfl).beyond

/-! ## Detection -/

/-- A word has a stand-in, and its composed form has none. -/
def Text.HidesStandIns (word : Text) : Prop :=
  word.any isStandIn = true ∧ word.nfc.any isStandIn = false

/-- A word and its composed form follow one convention, unless the word hides its stand-ins: then it
    follows the single convention, and its composed form that of digraphs. -/
theorem detect_nfc_cases (word : Text) :
    (¬word.HidesStandIns ∧ Convention.detect word.nfc = Convention.detect word) ∨
      (word.HidesStandIns ∧ Convention.detect word = .single ∧
        Convention.detect word.nfc = .digraphs) := by
  cases shown : word.nfc.any isStandIn with
  | true =>
    obtain ⟨c, member, standIn⟩ := List.any_eq_true.1 shown
    have kept : word.any isStandIn = true :=
      List.any_eq_true.2 ⟨c, mem_of_mem_nfc standIn member, standIn⟩
    exact Or.inl ⟨by simp [Text.HidesStandIns, shown], by simp [Convention.detect, shown, kept]⟩
  | false =>
    cases written : word.any isStandIn with
    | true =>
      exact Or.inr ⟨⟨written, shown⟩, by simp [Convention.detect, written],
        by simp [Convention.detect, shown]⟩
    | false =>
      exact Or.inl ⟨by simp [Text.HidesStandIns, written],
        by simp [Convention.detect, shown, written]⟩

/-- A composed word hides nothing. -/
theorem Text.not_hidesStandIns_of_composed {word : Text} (composed : word.nfc = word) :
    ¬word.HidesStandIns := by
  rintro ⟨written, hidden⟩
  rw [composed, written] at hidden
  exact absurd hidden (by simp)

end SoundLaw
