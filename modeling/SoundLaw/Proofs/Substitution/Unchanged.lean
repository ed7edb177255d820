/-
  SoundLaw.Proofs.Substitution.Unchanged

  Rules that replace a segment by itself. Every phoneme that such a rule matches is written again, and
  comes out with its letters in their case. A vowel keeps its diacritics as well (`Phoneme.kept`); any
  other phoneme loses those that vowels have, such as the acute of `ś`, although it is the same phoneme
  before and after. So a word stays as it is exactly if no consonant that is matched has such a
  diacritic (`substitute_contextRule`).
-/
import SoundLaw.Proofs.Match.Fitting
import SoundLaw.Proofs.Notation.Halves
import SoundLaw.Proofs.Phoneme.CanonicalForms
import SoundLaw.Proofs.Substitution.Junction

namespace SoundLaw

/-! ## The notation -/

/-- The notation of a rule that replaces a segment by itself. -/
def contextRule (segment : Text) : Text :=
  '[' :: segment ++ [']', ' '] ++ '>' :: (' ' :: '[' :: segment ++ [']'])

theorem splitHalves_contextRule {segment old new : Text}
    (halves : splitHalves (contextRule segment) = .ok (old, new)) :
    old = segment.strip ∧ new = segment.strip := by
  have plain : '>' ∉ segment := by
    intro inside
    -- There would be more than two parts.
    have parts := Text.length_split '>' (contextRule segment)
    have several := List.count_pos_iff.2 inside
    rw [contextRule] at parts
    simp only [List.count_append, List.count_cons] at parts
    rw [splitHalves] at halves
    split at halves
    · next split =>
      rw [contextRule] at split
      rw [split] at parts
      simp at parts
      omega
    · exact absurd halves (by simp)
  rw [contextRule, splitHalves_bracketed plain plain] at halves
  exact (Prod.mk.inj (Except.ok.inj halves)).imp Eq.symm Eq.symm

theorem stepsBetween_self (form : Form) :
    stepsBetween form form = form.slots.map fun s => Step.between s s := by
  have diagonal : form.slots.zip form.slots = form.slots.map fun s => (s, s) := by
    simpa using List.zip_map' (f := id) (g := id) (l := form.slots)
  rw [stepsBetween, diagonal, List.map_map]
  rfl

/-- If such a rule has a single variant, this replaces each slot of the segment by itself. -/
theorem steps_of_compile_contextRule {segment : Text} {v : Variant}
    (compiled : compile (contextRule segment) = .ok [v]) {form : Form}
    (parsed : Form.parse segment.stripBrackets = .ok form) :
    v.steps = form.slots.map fun s => Step.between s s := by
  obtain ⟨old, new, halves, fromHalves⟩ := compiledFrom_of_compile compiled
  obtain ⟨rfl, rfl⟩ := splitHalves_contextRule halves
  have single : '|' ∉ segment.strip := by
    have count := fromHalves.oldOptions
    rw [List.length_singleton] at count
    exact List.count_eq_zero.1 (by omega)
  have options : segment.strip.options = [segment.stripBrackets] := by
    rw [Text.options, Text.split_of_notMem single, List.map_singleton, Text.stripBrackets,
      Text.strip_strip]
    rfl
  have both : splitOptions (contextRule segment) =
      .ok ([segment.stripBrackets], [segment.stripBrackets]) := by
    simp [splitOptions, halves, options, bind, Except.bind]
  rw [compile, halves, both] at compiled
  have made := mapM_eq_ok_iff.1 compiled
  rw [List.zip_cons_cons, List.zip_nil_left, List.forall₂_cons] at made
  obtain ⟨oldForm, oldParsed, made⟩ := bind_eq_ok_iff.1 made.1
  obtain ⟨newForm, newParsed, made⟩ := bind_eq_ok_iff.1 made
  obtain rfl := Except.ok.inj (oldParsed.symm.trans parsed)
  obtain rfl := Except.ok.inj (newParsed.symm.trans parsed)
  rcases ofForms_cases (Position.ofHalf segment.strip) newForm newForm with
    ⟨aligned, _⟩ | ⟨⟨fault, refused⟩, _⟩
  · obtain rfl := Except.ok.inj (aligned.symm.trans made)
    exact stepsBetween_self newForm
  · exact absurd (refused.symm.trans made) (by simp)

/-! ## Slots -/

/-- A slot without diacritics, neither on what it stands for nor after it. -/
structure Slot.IsUnmarked (s : Slot) : Prop where
  bare : s.mark = []
  letters : ∀ c ∈ s.symbol.text, isMark c = false

instance (s : Slot) : Decidable s.IsUnmarked :=
  decidable_of_iff (s.mark = [] ∧ (s.symbol.text.all fun c => !isMark c) = true)
    ⟨fun h => ⟨h.1, by simpa using h.2⟩, fun h => ⟨h.bare, by simpa using h.letters⟩⟩

theorem Slot.IsUnmarked.exists_letter {s : Slot} (h : s.IsUnmarked)
    (prepared : s.symbol.IsPrepared) {literal : Text} (member : literal ∈ s.symbol.literals) :
    ∃ b, literal = Text.literal [b] ∧ decompose b = [b] ∧ isMark b = false := by
  obtain ⟨b, marks, rfl, final, marked, own⟩ := prepared.exists_unit member
  have none : ∀ m ∈ b :: marks, isMark m = false := by
    intro m hm
    rw [← Bool.not_eq_true]
    intro mark
    rw [h.letters m (own m hm mark)] at mark
    exact absurd mark (by simp)
  cases marks with
  | nil => exact ⟨b, rfl, final, none b List.mem_cons_self⟩
  | cons m marks =>
    have letter := none m (by simp)
    rw [marked m List.mem_cons_self] at letter
    exact absurd letter (by simp)

/-! ## Phonemes -/

/-- What is left of a phoneme that is written for itself: a vowel as it is, any other phoneme without
    the diacritics of vowels. -/
def Phoneme.kept (p : Phoneme) : Text :=
  if VowelSystem.lettered.isVowel p.key then p.text else p.text.withoutVowelMarks

/-- A phoneme without diacritics of vowels, unless it is a vowel. -/
def Phoneme.KeepsMarks (p : Phoneme) : Prop :=
  VowelSystem.lettered.isVowel p.key = true ∨ ∀ m ∈ p.marks, m ∉ vowelMarks

instance (p : Phoneme) : Decidable p.KeepsMarks :=
  decidable_of_iff (VowelSystem.lettered.isVowel p.key = true ∨
    (p.marks.all fun m => !vowelMarks.contains m) = true) (by simp [Phoneme.KeepsMarks])

theorem isMark_of_mem_vowelMarks {m : Char} (h : m ∈ vowelMarks) : isMark m = true := by
  have marks : vowelMarks.all isMark = true := by decide +kernel
  exact List.all_eq_true.1 marks m h

theorem not_vowelMark_of_mem_base {t : Text} {c : Char} (h : c ∈ t.base) :
    (!vowelMarks.contains c) = true := by
  simp only [List.contains_eq_mem, Bool.not_eq_true', decide_eq_false_iff_not]
  intro vowelMark
  have letter := Text.not_isMark_of_mem_base h
  rw [isMark_of_mem_vowelMarks vowelMark] at letter
  exact absurd letter (by simp)

section Mem

variable {word : Text} {p : Phoneme} (hp : p ∈ phonemes DigraphTable.rules word)

include hp

/-- No letter of a phoneme is a mark of vowels. -/
theorem forall_mem_nfd_text_iff : (∀ c ∈ p.text.nfd, (!vowelMarks.contains c) = true) ↔
    ∀ m ∈ p.marks, m ∉ vowelMarks := by
  rw [nfd_text_of_mem_phonemes hp, List.forall_mem_append]
  rw [and_iff_right fun c hc => not_vowelMark_of_mem_base hc]
  simp only [List.contains_eq_mem, Bool.not_eq_true', decide_eq_false_iff_not]

/-- The full length of what is kept is that of the phoneme only if nothing is lost. -/
theorem fullLength_kept : p.kept.fullLength ≤ p.text.fullLength ∧
    (p.kept.fullLength = p.text.fullLength ↔ p.KeepsMarks) := by
  rw [Phoneme.kept, Phoneme.KeepsMarks]
  split
  · next vowel => exact ⟨Nat.le_refl _, by simp [vowel]⟩
  · next consonant =>
    have kept : p.text.withoutVowelMarks.fullLength =
        (p.text.nfd.filter fun c => !vowelMarks.contains c).length := by
      rw [Text.withoutVowelMarks, Text.fullLength_nfc, Text.fullLength, flatMap_decompose_eq_self]
      exact fun c hc => decompose_eq_self_of_mem_nfd (List.mem_of_mem_filter hc)
    rw [kept, ← Text.length_nfd, List.length_filter_eq_length_iff, or_iff_right consonant,
      forall_mem_nfd_text_iff hp]
    exact ⟨List.length_filter_le _ _, Iff.rfl⟩

theorem kept_eq_text (composed : p.text.nfc = p.text) (keeps : p.KeepsMarks) :
    p.kept = p.text := by
  rw [Phoneme.kept]
  split
  · rfl
  · next consonant =>
    have none := (forall_mem_nfd_text_iff hp).2 (keeps.resolve_left consonant)
    rw [Text.withoutVowelMarks, List.filter_eq_self.2 none, Text.nfc_nfd, composed]

/-- The letters of a phoneme, with the marks that are kept. -/
theorem nfc_base_append_marks (composed : p.text.nfc = p.text) :
    Text.nfc (p.text.base ++ if VowelSystem.lettered.isVowel p.key then p.marks
      else p.marks.withoutVowelMarks) = p.kept := by
  have whole := nfd_text_of_mem_phonemes hp
  rw [Phoneme.kept]
  split
  · rw [← whole, Text.nfc_nfd, composed]
  · have letters : p.text.base.filter (fun c => !vowelMarks.contains c) = p.text.base :=
      List.filter_eq_self.2 fun c hc => not_vowelMark_of_mem_base hc
    have composing := Text.nfc_append_nfc_append p.text.base
      (p.marks.filter fun c => !vowelMarks.contains c) []
    rw [List.append_nil, List.append_nil] at composing
    rw [Text.withoutVowelMarks, Text.withoutVowelMarks, nfd_marks_of_mem_phonemes hp, composing,
      whole, List.filter_append, letters]

end Mem

/-- The letters of an upper-case phoneme are not changed by giving it back its capital. -/
theorem capitalize_base_append {t : Text} (upper : t.isCapitalized = true) (u : Text) :
    (t.base ++ u).capitalize = t.base ++ u := by
  cases t with
  | nil => exact absurd upper (by simp [Text.isCapitalized])
  | cons c t =>
    have letter := isMark_of_isUpper upper
    obtain ⟨h, own, whole, plain, _⟩ := exists_decompose_eq_cons letter
    have first : Text.nfd (c :: t) = h :: reorderMarks (own ++ t.flatMap decompose) := by
      rw [Text.nfd, List.flatMap_cons, whole, List.cons_append]
      exact insertMark_of_starter (combiningClass_of_not_isMark plain) _
    have kept : (!isMark h) = true := by simp [plain]
    rw [Text.base, first, List.filter_cons_of_pos (p := fun c => !isMark c) kept, List.cons_append,
      Text.capitalize, upperLetter_of_isUpper_decompose upper whole, List.singleton_append]

/-! ## Steps -/

section Step

variable {m : Match} {v : Variant} {word : Text}
  (binds : m.Binds v (phonemes DigraphTable.rules word)) {b : Binding} (hb : b ∈ m.bindings)
  {s : Slot} (step : b.step = Step.between s s) (unmarked : s.IsUnmarked)
  (prepared : s.symbol.IsPrepared)

include binds hb step unmarked prepared

/-- A step that replaces a slot by itself writes a literal of its phoneme, and takes no marks from
    it. -/
theorem exists_literal_of_between_self {p : Phoneme} (bound : b.phoneme = some p) :
    p ∈ phonemes DigraphTable.rules word ∧ ∃ literal,
      b.literal m.captures = .ok (some literal) ∧ literal.literalKey = p.key ∧
        literal.literalMarks = [] ∧ b.droppedMarks = [] := by
  have pair := binds.mem_zip hb bound
  have hp := List.mem_of_mem_drop (List.of_mem_zip pair).2
  have wild : s.symbol ≠ .wildcard := by
    intro wild
    have consumes := binds.consumes b hb
    rw [bound, step, Step.between, if_pos wild] at consumes
    exact absurd consumes (by simp [Step.consumes])
  obtain ⟨chosen, listed, fits, _⟩ := binds.chosen b hb p bound
  rw [step, Step.between, if_neg wild] at pair listed
  have member := List.mem_of_getElem? listed
  obtain ⟨c, same, final, letter⟩ := unmarked.exists_letter prepared member
  have own : chosen.literalMarks = [] := by
    subst same
    rw [(key_eq_lower_of_fits hp final letter (by simp) fits).2]
    exact (base_and_marks_singleton final letter).2
  have dropped : b.droppedMarks = [] := by
    rw [Binding.droppedMarks, step, Step.between, if_neg wild, unmarked.bare, List.nil_append]
    dsimp only
    rw [listed, Option.map_some, Option.getD_some, own]
  refine ⟨hp, ?_⟩
  rw [Binding.literal, step, Step.between, if_neg wild]
  cases coindex : s.coindex with
  | some n =>
    -- What is captured is the key of the phoneme itself.
    have captured := (binds.captured (Int.ofNat n) p.key).2 ⟨_, pair, by simp [coindex], rfl⟩
    obtain ⟨key, none, _⟩ := literalKey_of_isLetterKey (isLetterKey_of_fits hp prepared member fits)
    exact ⟨p.key, by simp only [Option.map_some, captured], key, none, dropped⟩
  | none =>
    refine ⟨chosen, ?_, fits.1, own, dropped⟩
    dsimp only at listed
    cases literals : s.symbol.literals with
    | nil => simp [literals] at listed
    | cons first others =>
      rw [literals] at listed
      cases others with
      | nil =>
        rw [List.mem_singleton.1 (List.mem_of_getElem? listed)]
        rfl
      | cons second others => simp [listed]

/-- A step that replaces a slot by itself writes what is kept of its phoneme. -/
theorem render_of_between_self {p : Phoneme} (bound : b.phoneme = some p)
    (composed : p.text.nfc = p.text) (convention : Convention) :
    b.render m.captures convention = .ok p.kept := by
  obtain ⟨hp, literal, found, key, none, dropped⟩ :=
    exists_literal_of_between_self binds hb step unmarked prepared bound
  have letters : b.letters convention literal = .ok p.text.base := by
    rw [Binding.letters, bound, Option.filter_some, key, beq_self_eq_true, if_pos rfl]
  have written : b.writtenMarks literal = if VowelSystem.lettered.isVowel p.key then p.marks
      else p.marks.withoutVowelMarks := by
    rw [Binding.writtenMarks, none, List.isEmpty_nil, if_pos rfl, bound]
    simp only [Binding.carriedMarks, dropped, key, List.contains_nil, Bool.not_false,
      List.filter_true]
  have newMark : b.step.newMark = [] := by
    rw [step, Step.between]
    split
    · rfl
    · exact unmarked.bare
  rw [← nfc_base_append_marks hp composed, ← written, Binding.render, found]
  simp only [bind, Except.bind, letters, newMark, List.isEmpty_nil, Bool.true_or, if_true, bound,
    Option.any_some, pure, Except.pure]
  split
  · next capital => rw [capitalize_base_append capital]
  · rfl

end Step

/-- A step that replaces a slot by itself and has no phoneme writes nothing. -/
theorem isSilent_of_between_self {b : Binding} {s : Slot} (step : b.step = Step.between s s)
    (wellFormed : b.step.WellFormed) (unbound : b.step.consumes = false) : b.step.IsSilent := by
  rw [Step.consumes, Bool.and_eq_false_iff, Bool.not_eq_false', Bool.not_eq_false',
    List.isEmpty_iff] at unbound
  rcases unbound with wildcard | nothing
  · exact Or.inl wildcard
  · -- What it writes is what it matches, and its coindex is one that it captures.
    have same : b.step.replace = b.step.find ∧ b.step.newCoindex = b.step.oldCoindex := by
      rw [step, Step.between]
      split <;> exact ⟨rfl, rfl⟩
    refine Or.inr ⟨same.1.trans nothing, ?_⟩
    rw [same.2]
    exact Decidable.byContradiction fun coindexed => wellFormed.coindexed coindexed nothing

/-! ## Matches -/

/-- The phonemes of a match. -/
def Match.matched (m : Match) (ps : List Phoneme) : List Phoneme :=
  (ps.drop m.start).take (m.stop - m.start)

theorem Match.Binds.filterMap_phoneme {m : Match} {v : Variant} {ps : List Phoneme}
    (binds : m.Binds v ps) (room : m.start + v.consuming.length ≤ ps.length) :
    m.bindings.filterMap Binding.phoneme = m.matched ps := by
  have count : v.consuming.length ≤ (ps.drop m.start).length := by
    rw [List.length_drop]
    omega
  have second := congrArg (List.map Prod.snd) binds.paired
  rw [List.map_filterMap, List.zip_eq_zip_take_min, Nat.min_eq_left count, List.take_length,
    List.map_snd_zip (List.length_take_le _ _)] at second
  rw [Match.matched, binds.stop, Nat.add_sub_cancel_left, ← second]
  refine List.filterMap_congr fun b _ => ?_
  cases b.phoneme <;> rfl

theorem flatten_map_phoneme (f : Phoneme → Text) (bs : List Binding) :
    (bs.map fun b => (b.phoneme.map f).getD []).flatten =
      (bs.filterMap Binding.phoneme).flatMap f := by
  induction bs with
  | nil => rfl
  | cons b bs ih =>
    rw [List.map_cons, List.flatten_cons, ih, List.filterMap_cons]
    cases b.phoneme <;> rfl

theorem cut_match (m : Match) (word : Text) (ordered : m.start ≤ m.stop) :
    m.textBefore (phonemes DigraphTable.rules word) ++
      (m.matched (phonemes DigraphTable.rules word)).flatMap Phoneme.text ++
        m.textAfter (phonemes DigraphTable.rules word) = word := by
  have stop : m.start + (m.stop - m.start) = m.stop := by omega
  rw [Match.textBefore, Match.matched, Match.textAfter, ← List.flatMap_append,
    ← List.flatMap_append, ← List.take_add, stop, List.take_append_drop, flatMap_text_phonemes]

theorem nfc_text_of_mem_phonemes {word : Text} {p : Phoneme}
    (hp : p ∈ phonemes DigraphTable.rules word.nfc) : p.text.nfc = p.text := by
  obtain ⟨i, inside, rfl⟩ := List.getElem_of_mem hp
  have single : ((phonemes DigraphTable.rules word.nfc).drop i).take 1 =
      [(phonemes DigraphTable.rules word.nfc)[i]] := by
    rw [List.drop_eq_getElem_cons inside, List.take_succ_cons, List.take_zero]
  have run := nfc_run DigraphTable.rules word i 1
  rwa [single, List.flatMap_singleton] at run

/-- The full length of what is kept of several phonemes is theirs only if nothing is lost. -/
theorem fullLength_flatMap_kept {word : Text} {ps : List Phoneme}
    (inWord : ∀ p ∈ ps, p ∈ phonemes DigraphTable.rules word) :
    Text.fullLength (ps.flatMap Phoneme.kept) ≤ Text.fullLength (ps.flatMap Phoneme.text) ∧
      (Text.fullLength (ps.flatMap Phoneme.kept) = Text.fullLength (ps.flatMap Phoneme.text) ↔
        ∀ p ∈ ps, p.KeepsMarks) := by
  induction ps with
  | nil => simp
  | cons p ps ih =>
    obtain ⟨here, later⟩ := List.forall_mem_cons.1 inWord
    obtain ⟨shorter, same⟩ := fullLength_kept here
    obtain ⟨shorterRest, sameRest⟩ := ih later
    rw [List.flatMap_cons, List.flatMap_cons, Text.fullLength_append, Text.fullLength_append,
      List.forall_mem_cons, ← same, ← sameRest]
    omega

/-- A word in which phonemes give way to what is kept of them stays as it is exactly if nothing is
    lost. -/
theorem nfc_kept_eq_iff {word before after : Text} {ps : List Phoneme}
    (inWord : ∀ p ∈ ps, p ∈ phonemes DigraphTable.rules word.nfc)
    (whole : before ++ ps.flatMap Phoneme.text ++ after = word.nfc) :
    Text.nfc (before ++ ps.flatMap Phoneme.kept ++ after) = word.nfc ↔
      ∀ p ∈ ps, p.KeepsMarks := by
  constructor
  · intro same
    apply (fullLength_flatMap_kept inWord).2.1
    have lengths := congrArg Text.fullLength (same.trans whole.symm)
    rw [Text.fullLength_nfc, Text.fullLength_append, Text.fullLength_append,
      Text.fullLength_append, Text.fullLength_append] at lengths
    omega
  · intro keeps
    have texts : ps.flatMap Phoneme.kept = ps.flatMap Phoneme.text :=
      List.flatMap_congr fun p hp => kept_eq_text (inWord p hp)
        (nfc_text_of_mem_phonemes (inWord p hp)) (keeps p hp)
    rw [texts, whole, Text.nfc_nfc]

section ContextRule

variable {segment : Text} {v : Variant} (compiled : compile (contextRule segment) = .ok [v])
  {form : Form} (parsed : Form.parse segment.stripBrackets = .ok form)
  (unmarked : ∀ s ∈ form.slots, s.IsUnmarked)

include compiled parsed unmarked

/-- A rule that replaces a segment without diacritics by itself writes, at every step, what is kept
    of the phoneme there. -/
theorem render_contextRule {word : Text} {m : Match}
    (binds : m.Binds v (phonemes DigraphTable.rules word.nfc)) (convention : Convention)
    {b : Binding} (hb : b ∈ m.bindings) :
    b.render m.captures convention = .ok ((b.phoneme.map Phoneme.kept).getD []) := by
  have row : b.step ∈ v.steps := binds.row ▸ List.mem_map_of_mem hb
  have wellFormed := (wellFormed_of_compile compiled v List.mem_cons_self).steps b.step row
  rw [steps_of_compile_contextRule compiled parsed] at row
  obtain ⟨s, hs, step⟩ := List.mem_map.1 row
  cases bound : b.phoneme with
  | some p =>
    have hp := List.mem_of_mem_drop (List.of_mem_zip (binds.mem_zip hb bound)).2
    exact render_of_between_self binds hb step.symm (unmarked s hs)
      (isPrepared_of_parse parsed s hs) bound (nfc_text_of_mem_phonemes hp) convention
  | none =>
    have unbound := binds.consumes b hb
    rw [bound] at unbound
    exact render_of_isSilent wellFormed
      (isSilent_of_between_self step.symm wellFormed unbound.symm) _ _

end ContextRule

/-- A rule that replaces a segment without diacritics by itself writes what is kept of each phoneme
    that it matches, and leaves the word as it is exactly if nothing is lost. -/
theorem substitute_contextRule {segment : Text} {v : Variant}
    (compiled : compile (contextRule segment) = .ok [v]) {form : Form}
    (parsed : Form.parse segment.stripBrackets = .ok form)
    (unmarked : ∀ s ∈ form.slots, s.IsUnmarked) (word : Text) (convention : Option Convention)
    {m : Match} (found : v.findMatch? (phonemes DigraphTable.rules word.nfc) = some m) :
    ∃ result, v.substitute word convention = .ok (some result) ∧
      result = Text.nfc (m.textBefore (phonemes DigraphTable.rules word.nfc) ++
        (m.matched (phonemes DigraphTable.rules word.nfc)).flatMap Phoneme.kept ++
          m.textAfter (phonemes DigraphTable.rules word.nfc)) ∧
      (result = word.nfc ↔
        ∀ p ∈ m.matched (phonemes DigraphTable.rules word.nfc), p.KeepsMarks) := by
  obtain ⟨admits, _, binds⟩ := binds_of_findMatch? found
  have room := admits.room
  have stop := binds.stop
  have inWord : ∀ p ∈ m.matched (phonemes DigraphTable.rules word.nfc),
      p ∈ phonemes DigraphTable.rules word.nfc :=
    fun p hp => List.mem_of_mem_drop (List.mem_of_mem_take hp)
  have written : (m.bindings.map fun b => (b.phoneme.map Phoneme.kept).getD []).flatten =
      (m.matched (phonemes DigraphTable.rules word.nfc)).flatMap Phoneme.kept := by
    rw [← binds.filterMap_phoneme room, flatten_map_phoneme]
  have rendered := substitute_eq_ok_of_findMatch? convention found
    (mapM_eq_ok_map fun b hb => render_contextRule compiled parsed unmarked binds _ hb)
  rw [take_startOffset, drop_stopOffset (by omega) (by omega), written] at rendered
  exact ⟨_, rendered, rfl, nfc_kept_eq_iff inWord (cut_match m word.nfc (by omega))⟩

-- An upper-case vowel with an acute under a coindex, and an `s` with a dot below that a group matches.
theorem substitute_contextRule_of_marked_vowel :
    ∃ v form m, compile (contextRule ['V', '₁', '{', 's', ' ', 't', 'h', '}', '-']) = .ok [v] ∧
      Form.parse (Text.stripBrackets ['V', '₁', '{', 's', ' ', 't', 'h', '}', '-']) = .ok form ∧
      (∀ s ∈ form.slots, s.IsUnmarked) ∧
      v.findMatch? (phonemes DigraphTable.rules (Text.nfc ['É', 'ṣ', 'a'])) = some m ∧
      v.substitute ['É', 'ṣ', 'a'] none = .ok (some ['É', 'ṣ', 'a']) := by
  have parsed : Form.parse (Text.stripBrackets ['V', '₁', '{', 's', ' ', 't', 'h', '}', '-']) =
      .ok { slots := [{ symbol := .vowel, coindex := some 1 },
                      { symbol := .group ['s', ' ', 'θ'] }, { symbol := .wildcard }],
            groups := [['s', ' ', 'θ']] } := by
    apply eq_ok_of_toOption_eq_some
    decide +kernel
  have matched : (compile (contextRule ['V', '₁', '{', 's', ' ', 't', 'h', '}', '-'])).toOption.map
      (·.map fun v => (v.findMatch? (phonemes DigraphTable.rules (Text.nfc ['É', 'ṣ', 'a']))).map
        fun m => m.matched (phonemes DigraphTable.rules (Text.nfc ['É', 'ṣ', 'a']))) =
      some [some [⟨['É'], ['e'], ['\u0301'], 0, 1⟩, ⟨['ṣ'], ['s'], ['\u0323'], 1, 2⟩]] := by
    decide +kernel
  obtain ⟨variants, compiled, each⟩ := Option.map_eq_some_iff.1 matched
  obtain ⟨v, rfl, found⟩ := List.map_eq_singleton_iff.1 each
  obtain ⟨m, found, phonemes⟩ := Option.map_eq_some_iff.1 found
  have compiled := eq_ok_of_toOption_eq_some compiled
  have unmarked : ∀ s ∈ [({ symbol := .vowel, coindex := some 1 } : Slot),
      { symbol := .group ['s', ' ', 'θ'] }, { symbol := .wildcard }], s.IsUnmarked := by
    decide +kernel
  obtain ⟨result, spelled, _, same⟩ :=
    substitute_contextRule compiled parsed unmarked ['É', 'ṣ', 'a'] none found
  refine ⟨v, _, m, compiled, parsed, unmarked, found, ?_⟩
  have composed : Text.nfc ['É', 'ṣ', 'a'] = ['É', 'ṣ', 'a'] := by decide +kernel
  rw [spelled, same.2, composed]
  rw [phonemes]
  decide +kernel

/-- A rule that replaces `s` by itself takes the acute from `ś`. -/
theorem contextRule_takes_acute :
    ∃ v form m, compile (contextRule ['s']) = .ok [v] ∧
      Form.parse (Text.stripBrackets ['s']) = .ok form ∧ (∀ s ∈ form.slots, s.IsUnmarked) ∧
      v.findMatch? (phonemes DigraphTable.rules (Text.nfc ['a', 'ś', 'a'])) = some m ∧
      v.substitute ['a', 'ś', 'a'] none = .ok (some ['a', 's', 'a']) ∧
      Text.nfc ['a', 'ś', 'a'] = ['a', 'ś', 'a'] := by
  have compiled : compile (contextRule ['s']) =
      .ok [{ steps := [{ find := [['s']], replace := [['s']] }] }] := by
    apply eq_ok_of_toOption_eq_some
    decide +kernel
  have parsed : Form.parse (Text.stripBrackets ['s']) =
      .ok { slots := [{ symbol := .literal 's' }], groups := [] } := by
    apply eq_ok_of_toOption_eq_some
    decide +kernel
  have written : (Variant.substitute { steps := [{ find := [['s']], replace := [['s']] }] }
      ['a', 'ś', 'a'] none).toOption = some (some ['a', 's', 'a']) := by decide +kernel
  have matched : (Variant.findMatch? { steps := [{ find := [['s']], replace := [['s']] }] }
      (phonemes DigraphTable.rules (Text.nfc ['a', 'ś', 'a']))).isSome = true := by decide +kernel
  obtain ⟨m, found⟩ := Option.isSome_iff_exists.1 matched
  exact ⟨_, _, m, compiled, parsed, by decide +kernel, found, eq_ok_of_toOption_eq_some written,
    by decide +kernel⟩

end SoundLaw
