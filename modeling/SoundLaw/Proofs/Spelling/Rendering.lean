/-
  SoundLaw.Proofs.Spelling.Rendering

  The texts that every spelling convention can render. Only folding by the digraphs of words can
  fail, on a long `ſ` next to another `s`: a text without a long `ſ` can be rendered, and so can a
  text of one letter. The key of every phoneme is such a text, because a phoneme with a long `ſ` as
  its letter has no other letter.
-/
import SoundLaw.Proofs.Phoneme.Cut
import SoundLaw.Proofs.Text.LongS
import SoundLaw.Spelling.Convention

namespace SoundLaw

/-- A text of one letter at most, or without a long `ſ`. -/
def Text.IsRenderable (t : Text) : Prop := t.length ≤ 1 ∨ t.IsShort

/-! ## Rendering -/

/-- No digraph of words opens a single letter. -/
theorem reach_words_singleton (c : Char) : DigraphTable.words.reach [c] = none :=
  DigraphTable.reach_singleton DigraphTable.two_le_length_words c

theorem fold?_words_eq_ok {t : Text} (h : t.IsRenderable) :
    t.fold? DigraphTable.words = .ok (t.fold DigraphTable.words) := by
  rcases h with single | short
  · rw [Text.fold?, firstUnlisted?]
    cases t with
    | nil => simp
    | cons c t =>
      obtain rfl : t = [] := List.length_eq_zero_iff.1 (by simpa using single)
      simp [graphemes, Grapheme.unlisted?, DigraphTable.extent, reach_words_singleton]
  · exact Text.fold?_eq_ok (lists_words short.notMem)

/-- A text as a convention spells it, if it can be rendered. -/
def Convention.spell (convention : Convention) (t : Text) : Text :=
  match convention with
  | digraphs => t.spelledOut
  | single => t.fold DigraphTable.words

theorem Convention.render_eq_ok (convention : Convention) {t : Text} (h : t.IsRenderable) :
    convention.render t = .ok (convention.spell t) := by
  cases convention with
  | digraphs => rfl
  | single => exact fold?_words_eq_ok h

theorem Convention.exists_render_eq_ok (convention : Convention) {t : Text} (h : t.IsRenderable) :
    ∃ rendered, convention.render t = .ok rendered :=
  ⟨_, convention.render_eq_ok h⟩

/-! ## Base letters -/

/-- The base of a letter with marks is that of the letter. -/
theorem base_perm_of_marks {c : Char} {marks : Text} (marked : ∀ d ∈ marks, isMark d = true) :
    (Text.base (c :: marks)).Perm ((decompose c).filter fun d => !isMark d) := by
  -- Marks decompose to marks.
  have gone : (marks.flatMap decompose).filter (fun d => !isMark d) = [] := by
    rw [List.filter_eq_nil_iff]
    intro e he
    obtain ⟨d, hd, he⟩ := List.mem_flatMap.1 he
    simp [isMark_of_mem_decompose (marked d hd) he]
  have whole := (reorderMarks_perm ((c :: marks).flatMap decompose)).filter fun d => !isMark d
  rw [List.flatMap_cons, List.filter_append, gone, List.append_nil] at whole
  exact whole

/-- A long `ſ` with marks has no letter besides it. -/
theorem base_of_isLongS {c : Char} (long : isLongS c = true) {marks : Text}
    (marked : ∀ d ∈ marks, isMark d = true) : Text.base (c :: marks) = ['ſ'] := by
  have letter : (decompose c).filter (fun d => !isMark d) = ['ſ'] := by
    rcases isLongS_iff.1 long with rfl | rfl
    · decide +kernel
    · decide +kernel
  have whole := base_perm_of_marks (c := c) marked
  rw [letter] at whole
  exact List.perm_singleton.1 whole

theorem isShort_base_of_marks {c : Char} (short : isLongS c = false) {marks : Text}
    (marked : ∀ d ∈ marks, isMark d = true) : (Text.base (c :: marks)).IsShort := by
  intro d hd
  have letter := List.mem_of_mem_filter ((base_perm_of_marks marked).mem_iff.1 hd)
  rw [← Bool.not_eq_true] at short ⊢
  exact fun long => short (isLongS_of_mem_decompose letter long)

/-! ## Keys -/

/-- The stand-ins of rule notation have no long `ſ`. -/
theorem isShort_of_standIn? {spelling key : Text}
    (h : DigraphTable.rules.standIn? spelling = some key) : key.IsShort := by
  have standIns : (DigraphTable.rules.all fun d => d.2.all fun c => !isLongS c) = true := by
    decide +kernel
  obtain ⟨before, after, split, _⟩ := List.lookup_eq_some_iff.1 h
  have listed : (spelling.lower, key) ∈ DigraphTable.rules := by simp [split]
  intro c hc
  have checked := List.all_eq_true.1 (List.all_eq_true.1 standIns _ listed) c hc
  simpa using checked

/-- The key of a letter with marks can be rendered. -/
theorem isRenderable_base_lower {c : Char} {marks : Text} (marked : ∀ d ∈ marks, isMark d = true) :
    (Text.base (Text.base (c :: marks)).lower).IsRenderable := by
  cases long : isLongS c with
  | true =>
    have single : (Text.base (Text.lower ['ſ'])).length = 1 := by decide +kernel
    rw [base_of_isLongS long marked]
    exact Or.inl (Nat.le_of_eq single)
  | false => exact Or.inr (isShort_base_of_marks long marked).lower.nfd.base

/-- The key of every phoneme of a word can be rendered. -/
theorem isRenderable_base_key {word : Text} {p : Phoneme}
    (h : p ∈ phonemes DigraphTable.rules word) : p.key.base.IsRenderable := by
  obtain ⟨before, c, t, _, member, rfl⟩ := exists_firstGrapheme_of_mem DigraphTable.rules [] word p h
  have lists := DigraphTable.lists_of_isPlain DigraphTable.isPlain_rules word
  have listed := unlisted?_eq_none_of_mem_graphemes lists member
  show ((firstGrapheme DigraphTable.rules c t).key DigraphTable.rules).base.IsRenderable
  cases reached : DigraphTable.rules.reach (c :: t) with
  | some n =>
    -- The key of a digraph is its stand-in, which the table lists.
    have digraph := (firstGrapheme_of_reach reached).1
    have standIn := Grapheme.standIn?_eq_some_key digraph listed
    exact Or.inr (isShort_of_standIn? standIn).nfd.base
  | none =>
    -- The key of a letter is its base in lower case.
    obtain ⟨letter, text⟩ := firstGrapheme_of_reach_eq_none reached
    rw [Grapheme.key_of_letter DigraphTable.ne_nil_rules letter, text]
    exact isRenderable_base_lower (isMark_of_mem_trail DigraphTable.rules c t)

end SoundLaw
