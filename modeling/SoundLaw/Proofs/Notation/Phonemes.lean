/-
  SoundLaw.Proofs.Notation.Phonemes

  Notation and words are split into the same phonemes. A segment of plain letters is parsed to one
  slot for each phoneme of the composed segment, with the key of the phoneme as its letter and the
  marks of the phoneme as its marks (`parse_spells_phonemes`).

  Both sides start from the graphemes of the composed segment. Notation folds each of them and
  decomposes what it gets, and a phoneme is decomposed as it is written; one grapheme gives one slot
  (`exists_spells_firstGrapheme`), and no grapheme reaches into the next one, for each begins with a
  letter. A Hangul syllable is the exception: it is one phoneme, and several letters of notation.
-/
import SoundLaw.Proofs.Notation.LetterSlots
import SoundLaw.Proofs.Phoneme.Cut
import SoundLaw.Proofs.Spelling.DigraphLetters
import SoundLaw.Proofs.Traversal

namespace SoundLaw

/-! ## One grapheme -/

/-- A letter slot that is what a grapheme gives in notation, and what it is as a phoneme. -/
structure Slot.Spells (s : Slot) (g : Grapheme) : Prop where
  isLetter : s.IsLetter
  begins : ∀ c ∈ (g.folded DigraphTable.rules).head?, isMark c = false
  written : (g.folded DigraphTable.rules).nfd = s.written
  key : s.symbol.text.lower = g.key DigraphTable.rules
  mark : s.mark = g.text.marks

/-- The stand-ins of notation are ordinary letters in lower case. -/
theorem standIn_rules {spelling standIn : Text}
    (listed : DigraphTable.rules.standIn? spelling = some standIn) :
    ∃ s, standIn = [s] ∧ isMark s = false ∧ isOrdinary s = true ∧ decompose s = [s] ∧
      Text.lower [s] = [s] := by
  have checked : ∀ d ∈ DigraphTable.rules, d.2.length = 1 ∧ d.2.all (fun s =>
      !isMark s && isOrdinary s && decompose s == [s] && Text.lower [s] == [s]) = true := by
    decide +kernel
  obtain ⟨before, after, split, _⟩ := List.lookup_eq_some_iff.1 listed
  obtain ⟨single, letter⟩ := checked (spelling.lower, standIn) (by simp [split])
  obtain ⟨s, rfl⟩ := List.length_eq_one_iff.1 single
  simp only [List.all_cons, List.all_nil, Bool.and_true, Bool.and_eq_true, Bool.not_eq_true',
    beq_iff_eq] at letter
  exact ⟨s, rfl, letter.1.1.1, letter.1.1.2, letter.1.2, letter.2⟩

section FirstGrapheme

variable {c : Char} {t : Text}
  (ordinary : ∀ d ∈ (firstGrapheme DigraphTable.rules c t).text.nfd, isOrdinary d = true)

include ordinary

/-- A letter with marks is folded as it is, and decomposes to the letter of its slot. -/
theorem exists_spells_of_letter (letter : isMark c = false) (single : hangulLetters? c = none)
    (reached : DigraphTable.rules.reach (c :: t) = none) :
    ∃ s : Slot, s.Spells (firstGrapheme DigraphTable.rules c t) := by
  obtain ⟨noDigraph, text⟩ := firstGrapheme_of_reach_eq_none reached
  have folded : (firstGrapheme DigraphTable.rules c t).folded DigraphTable.rules =
      (firstGrapheme DigraphTable.rules c t).text := by
    simp [Grapheme.folded, Grapheme.phoneme, Grapheme.text, noDigraph]
  obtain ⟨b, rest, whole, plain, marked⟩ :=
    exists_nfd_eq_letter_marks letter single (isMark_of_mem_trail DigraphTable.rules c t)
  rw [← text] at whole
  obtain ⟨base, marks⟩ := base_eq_and_marks_eq whole plain marked
  rw [whole] at ordinary
  obtain ⟨here, later⟩ := List.forall_mem_cons.1 ordinary
  refine ⟨{ symbol := .literal b, mark := rest },
    .intro plain here fun m hm => ⟨marked m hm, later m hm⟩, ?_, ?_, ?_, marks.symm⟩
  · rw [folded, text]
    exact fun d hd => (Option.mem_some_iff.1 hd) ▸ letter
  · rw [folded, whole]
    rfl
  · rw [Grapheme.key_of_letter DigraphTable.ne_nil_rules noDigraph, base]
    rfl

/-- A digraph is folded to its stand-in, the letter of its slot, in front of the marks. -/
theorem exists_spells_of_digraph {n : Nat} (reached : DigraphTable.rules.reach (c :: t) = some n) :
    ∃ s : Slot, s.Spells (firstGrapheme DigraphTable.rules c t) := by
  obtain ⟨digraph, spelling⟩ := firstGrapheme_of_reach reached
  obtain ⟨standIn, found⟩ :=
    DigraphTable.exists_standIn?_of_reach DigraphTable.isPlain_rules reached
  have bare := isBareLetter_of_reach reached
  rw [← spelling] at found bare
  obtain ⟨s, rfl, plain, here, final, lower⟩ := standIn_rules found
  have phoneme : (firstGrapheme DigraphTable.rules c t).phoneme DigraphTable.rules = [s] := by
    rw [Grapheme.phoneme, if_pos digraph, found, Option.getD_some]
  -- The letters of the digraph have no marks of their own.
  have trailing := isMark_of_mem_trail DigraphTable.rules c t
  have marks := marks_bareLetters_append bare trailing
  refine ⟨{ symbol := .literal s, mark := (firstGrapheme DigraphTable.rules c t).trail.nfd },
    .intro plain here fun m hm => ⟨isMark_of_mem_nfd trailing m hm, ordinary m ?_⟩,
    ?_, ?_, ?_, marks.symm⟩
  · obtain ⟨e, member, hm⟩ := mem_nfd.1 hm
    exact mem_nfd.2 ⟨e, List.mem_append_right _ member, hm⟩
  · rw [Grapheme.folded, phoneme]
    exact fun d hd => (Option.mem_some_iff.1 hd) ▸ plain
  · rw [Grapheme.folded, phoneme, List.singleton_append, nfd_cons_of_final final plain]
    rfl
  · rw [Grapheme.key, if_pos digraph, phoneme]
    exact lower

end FirstGrapheme

/-- The first grapheme of a text that begins with a letter gives one slot. -/
theorem exists_spells_firstGrapheme {c : Char} {t : Text} (letter : isMark c = false)
    (single : hangulLetters? c = none) (ordinary : ∀ d ∈ Text.nfd (c :: t), isOrdinary d = true) :
    ∃ s : Slot, s.Spells (firstGrapheme DigraphTable.rules c t) := by
  have inside : ∀ d ∈ (firstGrapheme DigraphTable.rules c t).text.nfd, isOrdinary d = true := by
    intro d hd
    obtain ⟨e, member, hd⟩ := mem_nfd.1 hd
    refine ordinary d (mem_nfd.2 ⟨e, ?_, hd⟩)
    rw [← text_firstGrapheme_append DigraphTable.rules c t]
    exact List.mem_append_left _ member
  cases reached : DigraphTable.rules.reach (c :: t) with
  | none => exact exists_spells_of_letter inside letter single reached
  | some n => exact exists_spells_of_digraph inside reached

/-! ## Segments -/

/-- Every grapheme of a text of ordinary letters gives one slot. -/
theorem exists_spells_graphemes {t : Text} (lettered : ∀ c ∈ t.head?, isMark c = false)
    (single : ∀ c ∈ t, hangulLetters? c = none) (ordinary : ∀ c ∈ t.nfd, isOrdinary c = true) :
    ∃ slots, List.Forall₂ Slot.Spells slots (graphemes DigraphTable.rules isMark t) := by
  -- Along the graphemes: what is left after one begins with a letter again.
  induction t using graphemes_induction DigraphTable.rules with
  | nil => exact ⟨[], by simp⟩
  | cons c t ih =>
    have part : ∀ d ∈ afterFirst DigraphTable.rules c t, d ∈ c :: t := fun d hd =>
      text_firstGrapheme_append DigraphTable.rules c t ▸ List.mem_append_right _ hd
    rw [graphemes_cons]
    obtain ⟨s, spells⟩ := exists_spells_firstGrapheme (lettered c rfl)
      (single c List.mem_cons_self) ordinary
    obtain ⟨slots, later⟩ := ih (isMark_head?_afterFirst DigraphTable.rules c t)
      (fun d hd => single d (part d hd)) fun d hd => by
        obtain ⟨e, member, hd⟩ := mem_nfd.1 hd
        exact ordinary d (mem_nfd.2 ⟨e, part e member, hd⟩)
    exact ⟨s :: slots, .cons spells later⟩

/-- A folded text of letters prepares to its slots as they are written. -/
theorem nfd_flatMap_folded {slots : List Slot} {gs : List Grapheme}
    (spells : List.Forall₂ Slot.Spells slots gs) :
    Text.nfd (gs.flatMap (Grapheme.folded DigraphTable.rules)) = slots.flatMap Slot.written := by
  have begins : ∀ g ∈ gs, ∀ c ∈ (g.folded DigraphTable.rules).head?, isMark c = false := by
    intro g hg
    obtain ⟨s, _, here⟩ := exists_of_forall₂ spells.flip hg
    exact here.begins
  rw [nfd_flatMap begins]
  clear begins
  induction spells with
  | nil => rfl
  | cons here _ ih => rw [List.flatMap_cons, List.flatMap_cons, here.written, ih]

/-- How a slot is tied to a phoneme: it is the letter of its key, with its marks. -/
structure Slot.SpellsPhoneme (s : Slot) (p : Phoneme) : Prop where
  isLiteral : ∃ letter, s.symbol = .literal letter
  key : s.symbol.text.lower = p.key
  mark : s.mark = p.marks
  free : s.coindex = none

theorem spellsPhoneme_phonemesFrom {slots : List Slot} {gs : List Grapheme}
    (spells : List.Forall₂ Slot.Spells slots gs) (start : Nat) :
    List.Forall₂ Slot.SpellsPhoneme slots (phonemesFrom DigraphTable.rules start gs) := by
  induction spells generalizing start with
  | nil => exact .nil
  | @cons s g slots gs here _ ih =>
    refine .cons ⟨?_, here.key, here.mark, ?_⟩ (ih _)
    · cases here.isLetter
      exact ⟨_, rfl⟩
    · cases here.isLetter
      rfl

/-- A segment of ordinary letters without Hangul syllables is parsed to literal slots, one for each
    phoneme of the composed segment. -/
theorem parse_spells_phonemes {t : Text} (lettered : ∀ c ∈ t.nfc.head?, isMark c = false)
    (ordinary : ∀ c ∈ t.nfd, isOrdinary c = true)
    (single : ∀ c ∈ t.nfc, hangulLetters? c = none) :
    ∃ slots ps, Form.parse t = .ok { slots, groups := [] } ∧
      phonemes? DigraphTable.rules t.nfc = .ok ps ∧ List.Forall₂ Slot.SpellsPhoneme slots ps := by
  obtain ⟨slots, spells⟩ := exists_spells_graphemes lettered single (by rwa [Text.nfd_nfc])
  have filled : ∀ d ∈ DigraphTable.rules, d.1 ≠ [] := by decide
  have prepared : t.prepared = slots.flatMap Slot.written := by
    rw [Text.prepared, fold_eq_flatMap_folded filled (leavesMarks_rules t.nfc),
      nfd_flatMap_folded spells]
  have letters : ∀ s ∈ slots, s.IsLetter := fun s hs => by
    obtain ⟨g, _, here⟩ := exists_of_forall₂ spells hs
    exact here.isLetter
  exact ⟨slots, _, parse_of_written letters prepared,
    phonemes?_eq_ok DigraphTable.isPlain_rules t.nfc, spellsPhoneme_phonemesFrom spells 0⟩

-- A digraph in capitals with two marks out of order, a composed letter and another digraph.
theorem parse_spells_phonemes_of_marked_digraph :
    (∀ c ∈ (Text.nfc ['K', 'ʰ', '\u0301', '\u0323', 'á', 'n', 'g']).head?, isMark c = false) ∧
      (∀ c ∈ Text.nfd ['K', 'ʰ', '\u0301', '\u0323', 'á', 'n', 'g'], isOrdinary c = true) ∧
      (∀ c ∈ Text.nfc ['K', 'ʰ', '\u0301', '\u0323', 'á', 'n', 'g'], hangulLetters? c = none) ∧
      ∃ slots ps, Form.parse ['K', 'ʰ', '\u0301', '\u0323', 'á', 'n', 'g'] =
          .ok { slots, groups := [] } ∧
        phonemes? DigraphTable.rules (Text.nfc ['K', 'ʰ', '\u0301', '\u0323', 'á', 'n', 'g']) =
          .ok ps ∧
        List.Forall₂ Slot.SpellsPhoneme slots ps ∧
        slots.map Slot.written = [['ꝁ', '\u0323', '\u0301'], ['a', '\u0301'], ['ŋ']] := by
  have composed : Text.nfc ['K', 'ʰ', '\u0301', '\u0323', 'á', 'n', 'g'] =
      ['K', 'ʰ', '\u0323', '\u0301', 'á', 'n', 'g'] := by decide +kernel
  have lettered : ∀ c ∈ (Text.nfc ['K', 'ʰ', '\u0301', '\u0323', 'á', 'n', 'g']).head?,
      isMark c = false := by
    rw [composed]
    rintro c ⟨⟩
    decide +kernel
  have ordinary : ∀ c ∈ Text.nfd ['K', 'ʰ', '\u0301', '\u0323', 'á', 'n', 'g'],
      isOrdinary c = true := List.all_eq_true.1 (by decide +kernel)
  have single : ∀ c ∈ Text.nfc ['K', 'ʰ', '\u0301', '\u0323', 'á', 'n', 'g'],
      hangulLetters? c = none := by
    have none : (Text.nfc ['K', 'ʰ', '\u0301', '\u0323', 'á', 'n', 'g']).all
        (fun c => (hangulLetters? c).isNone) = true := by decide +kernel
    simpa only [List.all_eq_true, Option.isNone_iff_eq_none] using none
  have written : (Form.parse ['K', 'ʰ', '\u0301', '\u0323', 'á', 'n', 'g']).toOption.map
      (fun form => form.slots.map Slot.written) =
        some [['ꝁ', '\u0323', '\u0301'], ['a', '\u0301'], ['ŋ']] := by decide +kernel
  obtain ⟨slots, ps, parsed, read, spells⟩ := parse_spells_phonemes lettered ordinary single
  refine ⟨lettered, ordinary, single, slots, ps, parsed, read, spells, ?_⟩
  rw [parsed] at written
  exact Option.some.inj written

/-- Two conjoining letters are composed to a Hangul syllable, which is one phoneme of a word;
    notation takes it apart again and makes two slots of it. -/
theorem parse_splits_syllable :
    (∀ c ∈ ['\u1100', '\u1161'], decompose c = [c] ∧ isMark c = false) ∧
      Text.nfc ['\u1100', '\u1161'] = ['\uAC00'] ∧ isMark '\uAC00' = false ∧
      (∀ c ∈ Text.nfd ['\u1100', '\u1161'], isOrdinary c = true) ∧
      Form.parse ['\u1100', '\u1161'] = .ok
        { slots := [{ symbol := .literal '\u1100' }, { symbol := .literal '\u1161' }],
          groups := [] } ∧
      phonemes? DigraphTable.rules (Text.nfc ['\u1100', '\u1161']) =
        .ok [⟨['\uAC00'], ['\u1100', '\u1161'], [], 0, 1⟩] := by
  refine ⟨?_, by decide +kernel, by decide +kernel, List.all_eq_true.1 (by decide +kernel), ?_, ?_⟩
  · rw [List.forall_mem_cons, List.forall_mem_singleton]
    decide +kernel
  · apply eq_ok_of_toOption_eq_some
    decide +kernel
  · rw [phonemes?_eq_ok DigraphTable.isPlain_rules]
    exact congrArg Except.ok (by decide +kernel)

end SoundLaw
