/-
  SoundLaw.Proofs.Phoneme.LetterCase

  The case of the letters of a word. Digraphs are read without regard to it, and marks have none. So
  a word in lower-case letters is cut where the word is, into phonemes with the same keys and marks
  (`phonemes_map_lowerLetter`): two words that differ in the case of their letters have phonemes
  that differ in their spelling alone (`phonemes_sameButSpelling`).
-/
import SoundLaw.Proofs.Phoneme.Cut
import SoundLaw.Proofs.Text.LetterCase

namespace SoundLaw

/-! ## Characters -/

theorem isMark_comp_lowerLetter : isMark ∘ lowerLetter = isMark := by
  funext c
  rw [Function.comp_apply]
  cases mark : isMark c with
  | true => rw [lowerLetter_of_isMark mark, mark]
  | false => exact isMark_lowerLetter mark

theorem combiningClass_lowerLetter (c : Char) :
    combiningClass (lowerLetter c) = combiningClass c := by
  cases mark : isMark c with
  | true => rw [lowerLetter_of_isMark mark]
  | false =>
    rw [combiningClass_of_not_isMark mark, combiningClass_of_not_isMark (isMark_lowerLetter mark)]

theorem low_of_isAlpha {c : Char} (letter : c.isAlpha = true) : c.toNat < 0x80 := by
  rcases (Bool.or_eq_true _ _).mp letter with upper | lower
  · have inside : 'A'.val ≤ c.val ∧ c.val ≤ 'Z'.val := of_decide_eq_true upper
    exact Nat.lt_of_le_of_lt (UInt32.le_iff_toNat_le.1 inside.2) (by decide)
  · have inside := of_decide_eq_true ((Bool.and_eq_true _ _).mp lower).2
    exact Nat.lt_of_le_of_lt (UInt32.le_iff_toNat_le.1 inside) (by decide)

theorem lowerLetter_of_low {c : Char} (low : c.toNat < 0x80) : lowerLetter c = c.toLower := by
  have checked : ((List.range 0x80).all fun n =>
      lowerLetter (Char.ofNat n) == (Char.ofNat n).toLower) = true := by decide +kernel
  have here := List.all_eq_true.1 checked c.toNat (List.mem_range.2 low)
  rwa [Char.ofNat_toNat, beq_iff_eq] at here

theorem toLower_of_isMark {m : Char} (mark : isMark m = true) : m.toLower = m := by
  refine dif_neg ?_
  rintro ⟨_, last⟩
  have low : m.toNat ≤ 0x5A := UInt32.le_iff_toNat_le.1 last
  rw [isMark_eq_false_of_lt (by omega)] at mark
  exact absurd mark (by simp)

/-! ## Texts -/

/-- A text of letters of the basic alphabet and combining marks. -/
def Text.IsBasic (t : Text) : Prop := ∀ c ∈ t, c.isAlpha = true ∨ isMark c = true

instance (t : Text) : Decidable t.IsBasic :=
  decidable_of_iff ((t.all fun c => c.isAlpha || isMark c) = true) (by simp [Text.IsBasic])

/-- In such a text, only the letters `A` to `Z` have a lower case. -/
theorem Text.IsBasic.map_lowerLetter {t : Text} (basic : t.IsBasic) :
    t.map lowerLetter = t.map Char.toLower := by
  refine List.map_congr_left fun c hc => ?_
  rcases basic c hc with letter | mark
  · exact lowerLetter_of_low (low_of_isAlpha letter)
  · rw [lowerLetter_of_isMark mark, toLower_of_isMark mark]

theorem Text.IsBasic.notMem {t : Text} (basic : t.IsBasic) : 'Σ' ∉ t ∧ 'İ' ∉ t := by
  constructor
  · intro sigma
    rcases basic _ sigma with letter | mark
    · exact absurd letter (by decide)
    · exact absurd ((lowerLetter_of_isMark mark).symm.trans lowerLetter_sigma) (by decide)
  · intro dotted
    rcases basic _ dotted with letter | mark
    · exact absurd letter (by decide)
    · exact absurd ((lowerLetter_of_isMark mark).symm.trans lowerLetter_dotted) (by decide)

/-- Lower-case letters are in lower case. -/
theorem lower_map_lowerLetter {t : Text} (plain : 'Σ' ∉ t ∧ 'İ' ∉ t) :
    Text.lower (t.map lowerLetter) = t.lower := by
  have large {c : Char} (capital : lowerLetter c ≠ c) : c ∉ t.map lowerLetter := by
    intro member
    obtain ⟨d, _, rfl⟩ := List.mem_map.1 member
    exact capital (lowerLetter_lowerLetter d)
  have sigma : 'Σ' ∉ t.map lowerLetter := large (by rw [lowerLetter_sigma]; decide)
  have dotted : 'İ' ∉ t.map lowerLetter := large (by rw [lowerLetter_dotted]; decide)
  rw [Text.lower, Text.lower, lowerFrom_eq_map [] t plain.1 plain.2,
    lowerFrom_eq_map [] (t.map lowerLetter) sigma dotted, List.map_map]
  exact List.map_congr_left fun c _ => lowerLetter_lowerLetter c

theorem insertMark_map_lowerLetter (c : Char) (t : Text) :
    insertMark (lowerLetter c) (t.map lowerLetter) = (insertMark c t).map lowerLetter := by
  induction t with
  | nil => rfl
  | cons d t ih =>
    rw [List.map_cons, insertMark, insertMark, combiningClass_lowerLetter,
      combiningClass_lowerLetter, ih]
    split
    · rfl
    · rfl

theorem reorderMarks_map_lowerLetter (t : Text) :
    reorderMarks (t.map lowerLetter) = (reorderMarks t).map lowerLetter := by
  induction t with
  | nil => rfl
  | cons c t ih =>
    show insertMark (lowerLetter c) (reorderMarks (t.map lowerLetter)) = _
    rw [ih, insertMark_map_lowerLetter]
    rfl

section Basic

variable {t : Text} (basic : t.IsBasic)

include basic

theorem nfd_map_lowerLetter : Text.nfd (t.map lowerLetter) = t.nfd.map lowerLetter := by
  have parts : (t.map lowerLetter).flatMap decompose = (t.flatMap decompose).map lowerLetter := by
    rw [List.flatMap_map, List.map_flatMap]
    refine List.flatMap_congr fun c hc => ?_
    rcases basic c hc with letter | mark
    · have final := decompose_of_low (low_of_isAlpha letter)
      rw [decompose_lowerLetter final, final, List.map_singleton]
    · -- A mark decomposes to marks.
      rw [lowerLetter_of_isMark mark, List.map_congr_left fun d hd =>
        lowerLetter_of_isMark (isMark_of_mem_decompose mark hd), List.map_id']
  rw [Text.nfd, Text.nfd, parts, reorderMarks_map_lowerLetter]

theorem marks_map_lowerLetter : Text.marks (t.map lowerLetter) = t.marks := by
  rw [Text.marks, Text.marks, nfd_map_lowerLetter basic, List.filter_map, isMark_comp_lowerLetter]
  refine (List.map_congr_left fun m hm => ?_).trans (List.map_id' _)
  exact lowerLetter_of_isMark (List.mem_filter.1 hm).2

theorem base_map_lowerLetter : Text.base (t.map lowerLetter) = t.base.map lowerLetter := by
  have kept : (fun c => !isMark c) ∘ lowerLetter = fun c => !isMark c :=
    funext fun c => congrArg (!·) (congrFun isMark_comp_lowerLetter c)
  rw [Text.base, Text.base, nfd_map_lowerLetter basic, List.filter_map, kept]

theorem Text.IsBasic.base : t.base.IsBasic := by
  intro c hc
  obtain ⟨inside, letter⟩ := List.mem_filter.1 hc
  obtain ⟨d, hd, part⟩ := mem_nfd.1 inside
  rcases basic d hd with alpha | mark
  · rw [decompose_of_low (low_of_isAlpha alpha), List.mem_singleton] at part
    exact .inl (part ▸ alpha)
  · exact .inr (isMark_of_mem_decompose mark part)

end Basic

/-! ## Graphemes -/

theorem opens_map_lowerLetter (spelling t : Text) :
    DigraphTable.opens spelling (t.map lowerLetter) = DigraphTable.opens spelling t := by
  induction spelling generalizing t with
  | nil => rfl
  | cons k spelling ih =>
    cases t with
    | nil => rfl
    | cons c t =>
      rw [List.map_cons, DigraphTable.opens, DigraphTable.opens, sameLetter_lowerLetter, ih]

theorem reach_map_lowerLetter (table : DigraphTable) (t : Text) :
    table.reach (t.map lowerLetter) = table.reach t := by
  rw [DigraphTable.reach, DigraphTable.reach]
  simp only [opens_map_lowerLetter]

/-- A grapheme in lower-case letters. -/
def Grapheme.lowered (g : Grapheme) : Grapheme where
  head := g.head.map lowerLetter
  isDigraph := g.isDigraph
  trail := g.trail.map lowerLetter

theorem Grapheme.text_lowered (g : Grapheme) : g.lowered.text = g.text.map lowerLetter :=
  List.map_append.symm

/-- The lower-case letters of a text are cut where the text is. -/
theorem graphemes_map_lowerLetter (table : DigraphTable) (t : Text) :
    graphemes table isMark (t.map lowerLetter) =
      (graphemes table isMark t).map Grapheme.lowered := by
  induction t using graphemes_induction table with
  | nil => simp
  | cons c t ih =>
    have reached := reach_map_lowerLetter table (c :: t)
    have extent : table.extent (lowerLetter c :: t.map lowerLetter) = table.extent (c :: t) :=
      congrArg (fun r => r.getD 1 - 1) reached
    rw [List.map_cons] at reached ⊢
    rw [graphemes_cons, graphemes_cons, firstGrapheme, afterFirst, extent, reached, List.map_cons,
      ← ih, Grapheme.lowered, ← List.map_drop, List.takeWhile_map, List.dropWhile_map,
      isMark_comp_lowerLetter, firstGrapheme, afterFirst, List.map_cons, List.map_take]

/-- What a grapheme stands for has no case. -/
theorem Grapheme.key_lowered (table : DigraphTable) {g : Grapheme} (basic : g.text.IsBasic) :
    g.lowered.key table = g.key table := by
  have head : Text.IsBasic g.head := fun c hc => basic c (List.mem_append_left g.trail hc)
  have spelled : Text.lower g.lowered.head = g.head.lower := lower_map_lowerLetter head.notMem
  have base : g.lowered.text.base.lower = g.text.base.lower := by
    rw [Grapheme.text_lowered, base_map_lowerLetter basic, lower_map_lowerLetter basic.base.notMem]
  have marked : g.lowered.head.hasMark = g.head.hasMark := by
    rw [Text.hasMark, Text.hasMark, Grapheme.lowered, List.any_map, isMark_comp_lowerLetter]
  have digraph : g.lowered.isDigraph = g.isDigraph := rfl
  cases reads : g.isDigraph with
  | true => simp [Grapheme.key, Grapheme.phoneme, DigraphTable.standIn?, digraph, reads, spelled]
  | false => simp [Grapheme.key, digraph, reads, base, marked]

/-! ## Phonemes -/

/-- A phoneme that is spelled in lower-case letters. -/
def Phoneme.lowered (p : Phoneme) : Phoneme := { p with text := p.text.map lowerLetter }

theorem phonemesFrom_map_lowered (table : DigraphTable) (start : Nat) {gs : List Grapheme}
    (basic : ∀ g ∈ gs, g.text.IsBasic) :
    phonemesFrom table start (gs.map Grapheme.lowered) =
      (phonemesFrom table start gs).map Phoneme.lowered := by
  induction gs generalizing start with
  | nil => rfl
  | cons g gs ih =>
    obtain ⟨here, later⟩ := List.forall_mem_cons.1 basic
    rw [List.map_cons, phonemesFrom, phonemesFrom, List.map_cons, ih _ later, g.text_lowered,
      List.length_map, marks_map_lowerLetter here, Grapheme.key_lowered table here]
    rfl

/-- The lower-case letters of a word are the same phonemes as the word, spelled without capitals. -/
theorem phonemes_map_lowerLetter (table : DigraphTable) {word : Text} (basic : word.IsBasic) :
    phonemes table (word.map lowerLetter) = (phonemes table word).map Phoneme.lowered := by
  have parts : ∀ g ∈ graphemes table isMark word, g.text.IsBasic := by
    intro g hg c hc
    refine basic c ?_
    rw [← flatMap_text_graphemes table isMark word]
    exact List.mem_flatMap.2 ⟨g, hg, hc⟩
  rw [phonemes, phonemes, graphemes_map_lowerLetter, phonemesFrom_map_lowered table 0 parts]

/-- Two phonemes that only their spelling can tell apart. -/
structure Phoneme.SameButSpelling (p q : Phoneme) : Prop where
  start : p.start = q.start
  stop : p.stop = q.stop
  key : p.key = q.key
  marks : p.marks = q.marks

/-- Two words that differ in the case of their letters have the same phonemes, but for their
    spelling. -/
theorem phonemes_sameButSpelling (table : DigraphTable) {s t : Text} (basic : s.IsBasic)
    (basic' : t.IsBasic) (same : s.map Char.toLower = t.map Char.toLower) :
    List.Forall₂ Phoneme.SameButSpelling (phonemes table s) (phonemes table t) := by
  have lowered :
      (phonemes table s).map Phoneme.lowered = (phonemes table t).map Phoneme.lowered := by
    rw [← phonemes_map_lowerLetter table basic, ← phonemes_map_lowerLetter table basic',
      basic.map_lowerLetter, basic'.map_lowerLetter, same]
  rw [← List.forall₂_eq_eq_eq, List.forall₂_map_left_iff, List.forall₂_map_right_iff] at lowered
  refine lowered.imp fun p q equal => ?_
  obtain ⟨_, key, marks, start, stop⟩ := Phoneme.mk.inj equal
  exact ⟨start, stop, key, marks⟩

end SoundLaw
