/-
  SoundLaw.Proofs.Substitution.Choice

  A group of alternatives against the rule of the one that is chosen (`group_substitutes_as_letter`).
  Both match the same phoneme and write the same letters. The marks differ: those of an alternative
  take the place of all marks of the phoneme, those of a slot join the ones that go over from it, and
  are left out if the old slot has the same. So the two agree for a new alternative without marks,
  and for one with marks exactly if these are not those of the old one and no mark goes over.
-/
import SoundLaw.Proofs.Substitution.Span
import SoundLaw.Proofs.Substitution.WrittenMarks
import SoundLaw.Proofs.Syllable.VowelLetters
import SoundLaw.Proofs.Variant.SingleSlot

namespace SoundLaw

/-! ## Spelled letters -/

/-- Letters as a step writes them: a single one, or several ones that each stay as they are. -/
def Text.IsSpelled (letters : Text) : Prop :=
  (∃ b, letters = [b] ∧ decompose b = [b] ∧ isMark b = false) ∨
    2 ≤ letters.length ∧ ∀ c ∈ letters, IsSimpleLetter c

/-- Letters get their capital with their marks, whether these are composed with them or not. -/
theorem Text.IsSpelled.nfc_capitalize_nfc {letters marks : Text} (h : letters.IsSpelled)
    (marked : ∀ m ∈ marks, isMark m = true) (noIota : subscriptIota ∉ marks.nfd) :
    Text.nfc (Text.nfc (letters ++ marks)).capitalize = Text.nfc (letters ++ marks).capitalize := by
  rcases h with ⟨b, rfl, final, letter⟩ | ⟨several, simple⟩
  · exact nfc_capitalize_nfc_cons final letter marked noIota
  · -- The capital is that of the first letter, and the marks are at the last one.
    obtain ⟨first, others, last, rfl⟩ := exists_first_last several
    have composing := Text.nfc_append_nfc_append (upperLetter first ++ others) (last :: marks) []
    rw [List.append_nil, List.append_nil] at composing
    rw [List.append_assoc, List.singleton_append, nfc_simpleLetters_last simple, List.cons_append,
      List.cons_append, Text.capitalize, Text.capitalize, ← List.append_assoc, composing,
      List.append_assoc]

/-- A digraph of words is spelled with several letters, or with its stand-in. -/
theorem spell_words : (DigraphTable.words.all fun d =>
    (Nat.ble 2 d.1.spelledOut.length && d.1.spelledOut.all fun c =>
      !isMark c && decompose c == [c] && c.toNat / 256 != 0x11) &&
    match d.1.fold DigraphTable.words with
    | [b] => decompose b == [b] && !isMark b
    | _ => false) = true := by
  decide +kernel

theorem exists_render_spellOut (convention : Convention) {b : Char} (final : decompose b = [b])
    (letter : isMark b = false) :
    ∃ letters, convention.render (spellOut b) = .ok letters ∧ letters.IsSpelled := by
  refine ⟨_, convention.render_eq_ok (isRenderable_spellOut final), ?_⟩
  rcases spellOut_cases b with ⟨_, spelled⟩ | ⟨_, d, hd, _, spelled⟩
  · rw [spelled]
    cases convention with
    | digraphs =>
      have own : Convention.digraphs.spell [b] = [b] := by
        simp [Convention.spell, Text.spelledOut, spelled]
      exact .inl ⟨b, own, final, letter⟩
    | single => exact .inl ⟨b, fold_singleton (by decide) b, final, letter⟩
  · rw [spelled]
    have checked := List.all_eq_true.1 spell_words d hd
    rw [Bool.and_eq_true, Bool.and_eq_true, Nat.ble_eq, List.all_eq_true] at checked
    obtain ⟨⟨several, simple⟩, folded⟩ := checked
    cases convention with
    | digraphs =>
      refine .inr ⟨several, fun c hc => ?_⟩
      have checked := simple c hc
      simp only [Bool.and_eq_true, Bool.not_eq_true', beq_iff_eq, bne_iff_ne] at checked
      exact ⟨checked.1.1, checked.1.2, checked.2⟩
    | single =>
      split at folded
      · next standIn single =>
        rw [Bool.and_eq_true, beq_iff_eq, Bool.not_eq_true'] at folded
        exact .inl ⟨standIn, single, folded⟩
      · exact absurd folded (by simp)

/-! ## Literals of a letter with marks -/

section Parts

variable {t : Text} {c : Char} {marks : Text} (parts : t.HasParts c marks)

include parts

theorem Text.HasParts.nfd_marks : t.marks.nfd = t.marks := by
  have whole := parts.follow.decomposed
  rw [nfd_cons_of_final parts.sign.final parts.sign.letter, List.cons.injEq] at whole
  rw [parts.own]
  exact whole.2

theorem Text.HasParts.literalMarks_eq : (Text.literal t.nfd).literalMarks = t.marks := by
  rw [parts.whole, literalMarks_literal parts.sign.final parts.sign.letter parts.follow.marked,
    ← parts.own, parts.nfd_marks]

theorem Text.HasParts.literalMarks_base : (Text.literal t.base).literalMarks = [] := by
  rw [parts.base, literalMarks_literal parts.sign.final parts.sign.letter (List.forall_mem_nil _),
    Text.nfd_nil]

theorem Text.HasParts.base_literals :
    (Text.literal t.nfd).base = spellOut c ∧ (Text.literal t.base).base = spellOut c := by
  rw [parts.whole, parts.base]
  exact ⟨base_literal parts.sign.final parts.sign.letter parts.follow.marked,
    base_literal parts.sign.final parts.sign.letter (List.forall_mem_nil _)⟩

/-- The literal of a letter is a vowel exactly if the letter is. -/
theorem Text.HasParts.isVowel_literal_base :
    VowelSystem.lettered.isVowel (Text.literal t.base).literalKey =
      VowelSystem.lettered.isVowel t := by
  have consonants : (DigraphTable.words.all fun d =>
      !VowelSystem.lettered.isVowel (Text.literal d.2).literalKey &&
        d.2.all fun c => !VowelSystem.lettered.isLetter c) = true := by decide +kernel
  rw [isVowel_eq _ t, parts.whole, List.head?_cons, Option.any_some, parts.base]
  rcases spellOut_cases c with ⟨noStandIn, _⟩ | ⟨_, d, hd, standIn, _⟩
  · have keeps : KeepsDigraph c [] := fun standIn => absurd (noStandIn.symm.trans standIn) (by simp)
    have own := (base_and_marks_singleton parts.sign.final parts.sign.letter).1
    have shape : IsLetterBase (Text.base [c]) := own.symm ▸ .inr (.inl ⟨c, rfl⟩)
    have key := (literal_of_keepsDigraph parts.sign.final parts.sign.letter
      (List.forall_mem_nil _) keeps).1
    have vowel := isVowel_lower_base (v := VowelSystem.lettered) shape
    rw [own, List.head?_cons, Option.any_some] at vowel
    rw [key, vowel]
  · have checked := List.all_eq_true.1 consonants d hd
    rw [standIn, Bool.and_eq_true, List.all_cons, List.all_nil, Bool.and_true, Bool.not_eq_true',
      Bool.not_eq_true'] at checked
    rw [checked.1, checked.2]

end Parts

/-! ## Bindings -/

/-- The marks of a phoneme that go over to a new letter, if the old one takes its own marks away. -/
def Phoneme.carriedOver (p : Phoneme) (old new : Text) : Text :=
  let carried := p.marks.filter fun m => !old.marks.contains m
  if VowelSystem.lettered.isVowel new then carried else Text.withoutVowelMarks carried

theorem Phoneme.mem_marks_carriedOver {p : Phoneme} (final : ∀ m ∈ p.marks, decompose m = [m])
    {old new : Text} {m : Char} (h : m ∈ (p.carriedOver old new).marks) : m ∉ old.marks := by
  have carried {c : Char} (hc : c ∈ p.marks.filter fun m => !old.marks.contains m) :
      decompose c = [c] ∧ c ∉ old.marks := by
    obtain ⟨own, kept⟩ := List.mem_filter.1 hc
    exact ⟨final c own, by simpa using kept⟩
  simp only [Phoneme.carriedOver] at h
  split at h
  · exact (carried (Text.mem_of_mem_marks (fun c hc => (carried hc).1) h)).2
  · rw [Text.withoutVowelMarks, Text.marks_nfc] at h
    have kept := Text.mem_of_mem_marks
      (fun c hc => decompose_eq_self_of_mem_nfd (List.mem_of_mem_filter hc)) h
    obtain ⟨c, hc, part⟩ := mem_nfd.1 (List.mem_of_mem_filter kept)
    rw [(carried hc).1, List.mem_singleton] at part
    exact part ▸ (carried hc).2

/-- A phoneme bound to a group by an alternative, and bound to the letter of this alternative. -/
structure Binding.IsChoice (group letter : Binding) (p : Phoneme) (old new : Text) : Prop where
  bound : group.phoneme = some p ∧ letter.phoneme = some p
  literal (captures : Captures) : group.literal captures = .ok (some (Text.literal new.nfd)) ∧
    letter.literal captures = .ok (some (Text.literal new.base))
  dropped : group.droppedMarks = old.marks ∧ letter.droppedMarks = old.marks
  groupMark : group.step.newMark = []
  oldMark : letter.step.oldMark = old.marks
  newMark : letter.step.newMark = new.marks

theorem isChoice_of_getElem? {olds news : List Text} (several : 2 ≤ news.length) {i : Nat}
    {old new : Text} (oldHere : olds[i]? = some old) (newHere : news[i]? = some new) {x : Char}
    {oldMarks : Text} (parts : old.HasParts x oldMarks) (p : Phoneme) :
    Binding.IsChoice ⟨Step.ofGroups olds news, some p, i⟩ ⟨Step.ofLetters old new, some p, 0⟩ p
      old new := by
  refine ⟨⟨rfl, rfl⟩, fun captures => ⟨?_, rfl⟩, ⟨?_, ?_⟩, rfl, rfl, rfl⟩
  · match news, several, newHere with
    | first :: second :: others, _, newHere =>
      have here : ((first :: second :: others).map fun a => Text.literal a.nfd)[i]? =
          some (Text.literal new.nfd) := by
        rw [List.getElem?_map, newHere, Option.map_some]
      simp only [List.map_cons] at here
      simp only [Binding.literal, Step.ofGroups, List.map_cons, here]
  · simp [Binding.droppedMarks, Step.ofGroups, oldHere, parts.literalMarks_eq]
  · simp [Binding.droppedMarks, Step.ofLetters, parts.literalMarks_base]

/-- The letters that a step writes are those of the phoneme, or those of the literal. -/
theorem Binding.letters_congr {b b' : Binding} {p : Phoneme} (bound : b.phoneme = some p)
    (bound' : b'.phoneme = some p) {literal literal' : Text} (base : literal'.base = literal.base)
    (keys : p.key = literal'.literalKey ↔ p.key = literal.literalKey) (convention : Convention) :
    b'.letters convention literal' = b.letters convention literal := by
  simp only [Binding.letters, bound, bound', Option.filter_some, beq_iff_eq, keys, base]

/-! ## Letters of both -/

section Letters

variable {word : Text} {p : Phoneme} (hp : p ∈ phonemes DigraphTable.rules word.nfc)
  {old new : Text} {x y : Char} {oldMarks newMarks : Text} (oldParts : old.HasParts x oldMarks)
  (newParts : new.HasParts y newMarks) (fits : p.Fits (Text.literal old.nfd))

include hp oldParts fits

theorem exists_key_of_fits : p.key.IsLetterKey ∧ p.key.length = 1 ∧ KeepsDigraph x oldMarks := by
  have final := oldParts.sign.final
  have letter := oldParts.sign.letter
  rw [oldParts.whole] at fits
  have key := (key_eq_lower_of_fits hp final letter oldParts.follow.marked fits).1
  refine ⟨?_, ?_, ?_⟩
  · rw [key]
    exact .inr (exists_lower_eq_keyLetter letter final)
  · rw [key]
    exact length_lower_of_final final
  · by_contra loses
    exact literalKey_ne_of_not_keepsDigraph final letter oldParts.follow.marked loses
      (fits.1.trans key)

include newParts

/-- A step writes spelled letters for a phoneme of one letter. -/
theorem Binding.exists_isSpelled_letters {b : Binding} (bound : b.phoneme = some p)
    {literal : Text} (base : literal.base = spellOut y) (convention : Convention) :
    ∃ letters, b.letters convention literal = .ok letters ∧ letters.IsSpelled := by
  rw [Binding.letters, bound, Option.filter_some, base]
  split
  · next q same =>
    obtain rfl : p = q := by
      split at same
      · exact Option.some.inj same
      · exact absurd same (by simp)
    refine ⟨p.text.base, rfl, ?_⟩
    obtain ⟨short, single, _⟩ := exists_key_of_fits hp oldParts fits
    have spells := spellsKey_base hp short
    generalize p.text.base = letters at spells ⊢
    cases spells with
    | nothing empty =>
      rw [empty] at single
      exact absurd single (by simp)
    | letter plain final _ => exact .inl ⟨_, rfl, final, plain⟩
    | digraph listed _ opening length final =>
      have several := DigraphTable.two_le_length_rules _ listed
      exact .inr ⟨length ▸ several, isSimpleLetter_of_opens listed opening length final⟩
  · exact exists_render_spellOut convention newParts.sign.final newParts.sign.letter

/-- With marks or without, the new letter has the key of the phoneme. -/
theorem key_eq_literalKey_iff
    (reads : new.base.lower = p.key → (Text.literal new.nfd).literalKey = p.key) :
    p.key = (Text.literal new.base).literalKey ↔ p.key = (Text.literal new.nfd).literalKey := by
  have final := newParts.sign.final
  have letter := newParts.sign.letter
  have single := (exists_key_of_fits hp oldParts fits).2.1
  by_cases keeps : KeepsDigraph y newMarks
  · rw [newParts.base, newParts.whole,
      (literal_of_keepsDigraph final letter newParts.follow.marked keeps).1,
      (literal_of_keepsDigraph final letter (List.forall_mem_nil _) keeps.bare).1]
  · -- The literal has a key of two letters, so that the new letter cannot be that of the phoneme.
    have two := (literalKey_of_not_keepsDigraph final letter newParts.follow.marked keeps).1
    rw [← newParts.whole] at two
    constructor
    · intro same
      by_cases bare : KeepsDigraph y []
      · refine (reads ?_).symm
        rw [same, newParts.base]
        exact (literal_of_keepsDigraph final letter (List.forall_mem_nil _) bare).1.symm
      · have alone := (literalKey_of_not_keepsDigraph final letter (List.forall_mem_nil _) bare).1
        rw [← newParts.base, ← same, single] at alone
        exact absurd alone (by simp)
    · intro same
      rw [← same, single] at two
      exact absurd two (by simp)

end Letters

/-! ## What both write -/

/-- The new letter is read as the same phoneme with its marks as without them, and a capital keeps
    these marks. -/
structure Phoneme.ReadsAlike (p : Phoneme) (new : Text) : Prop where
  key : new.base.lower = p.key → (Text.literal new.nfd).literalKey = p.key
  capital : p.isUpper = true → subscriptIota ∉ new.marks

/-- The marks of the new letter are not those of the old one, and no other mark goes over to it. -/
structure Phoneme.TakesOnly (p : Phoneme) (old new : Text) : Prop where
  other : new.marks ≠ old.marks
  alone : p.carriedOver old new = []

namespace Binding.IsChoice

variable {group letter : Binding} {p : Phoneme} {old new : Text}
  (choice : Binding.IsChoice group letter p old new) {y : Char} {newMarks : Text}
  (newParts : new.HasParts y newMarks) {letters : Text}

include choice newParts

theorem writtenMarks_letter :
    letter.writtenMarks (Text.literal new.base) = p.carriedOver old new := by
  rw [Binding.writtenMarks, newParts.literalMarks_base, choice.bound.2]
  simp only [List.isEmpty_nil, if_true, Binding.carriedMarks, choice.dropped.2,
    newParts.isVowel_literal_base]
  rfl

theorem marked_group (filled : new.marks ≠ []) :
    group.marked letters (Text.literal new.nfd) = letters ++ new.marks := by
  simp [Binding.marked, choice.groupMark, Binding.writtenMarks, newParts.literalMarks_eq, filled]

theorem marked_letter : letter.marked letters (Text.literal new.base) =
    if new.marks = [] ∨ new.marks = old.marks then letters ++ p.carriedOver old new
    else Text.nfc (letters ++ p.carriedOver old new ++ new.marks) := by
  have marked : ∀ m ∈ new.marks, isMark m = true := fun _ hm => Text.isMark_of_mem_marks hm
  rw [Binding.marked, choice.writtenMarks_letter newParts, choice.oldMark, choice.newMark,
    Text.withDiacritic, combining_of_marks marked]
  simp only [Bool.or_eq_true, List.isEmpty_iff, beq_iff_eq]

/-- For a new letter without marks both write the same. -/
theorem render_eq_of_bare (bare : new.marks = []) (captures captures' : Captures)
    (convention : Convention) :
    group.render captures convention = letter.render captures' convention := by
  have same : new.nfd = new.base := by rw [newParts.whole, newParts.base, ← newParts.own, bare]
  have written : group.writtenMarks (Text.literal new.base) =
      letter.writtenMarks (Text.literal new.base) := by
    rw [choice.writtenMarks_letter newParts, Binding.writtenMarks, newParts.literalMarks_base,
      choice.bound.1]
    simp only [List.isEmpty_nil, if_true, Binding.carriedMarks, choice.dropped.1,
      newParts.isVowel_literal_base]
    rfl
  have spelled : group.letters convention (Text.literal new.base) =
      letter.letters convention (Text.literal new.base) :=
    Binding.letters_congr choice.bound.2 choice.bound.1 rfl Iff.rfl convention
  rw [Binding.render, Binding.render, (choice.literal captures).1, (choice.literal captures').2, same]
  simp only [bind, Except.bind, spelled, written, choice.groupMark, choice.newMark, bare,
    choice.bound.1, choice.bound.2, List.isEmpty_nil, Bool.true_or, if_true]

section Filled

variable (filled : new.marks ≠ []) {convention : Convention}
  (groupSpelled : group.letters convention (Text.literal new.nfd) = .ok letters)
  (captures captures' : Captures)

include filled

/-- The letter of a slot writes the marks that go over, and its own ones if the old slot has others. -/
theorem marks_render_letter
    (letterSpelled : letter.letters convention (Text.literal new.base) = .ok letters)
    (noIota : p.isUpper = true →
      subscriptIota ∉ new.marks ∧ subscriptIota ∉ (p.carriedOver old new).marks)
    {written : Text} (renders : letter.render captures convention = .ok written) :
    (written.marks.filter letter.keepsMark).Perm
      ((p.carriedOver old new).marks ++ if new.marks = old.marks then [] else new.marks) := by
  obtain rfl := Except.ok.inj (renders.symm.trans
    (Binding.render_eq_ok (choice.literal captures).2 letterSpelled))
  refine (letter.marks_raised_perm _).trans ?_
  have keeps {marks : Text} (none : p.isUpper = true → subscriptIota ∉ marks) :
      marks.filter letter.keepsMark = marks :=
    Binding.filter_keepsMark (by rwa [choice.bound.2])
  have carried := Binding.marks_letters_append letterSpelled (p.carriedOver old new)
  rw [choice.marked_letter newParts]
  by_cases again : new.marks = old.marks
  · rw [if_pos (.inr again), if_pos again, List.append_nil]
    exact (carried.filter _).trans (.of_eq (keeps fun capital => (noIota capital).2))
  · rw [if_neg (not_or_intro filled again), if_neg again, Text.marks_nfc]
    have both := (Text.marks_append _ _).trans (carried.append new.marks_marks)
    refine (both.filter _).trans (.of_eq ?_)
    rw [List.filter_append, keeps fun capital => (noIota capital).1,
      keeps fun capital => (noIota capital).2]

include groupSpelled

/-- For a new letter with marks both write the same if these are the only ones. -/
theorem render_eq_of_takesOnly
    (letterSpelled : letter.letters convention (Text.literal new.base) = .ok letters)
    (spelled : letters.IsSpelled)
    (noIota : p.isUpper = true → subscriptIota ∉ new.marks) (takes : p.TakesOnly old new) :
    group.render captures convention = letter.render captures' convention := by
  have marked : ∀ m ∈ new.marks, isMark m = true := fun _ hm => Text.isMark_of_mem_marks hm
  rw [Binding.render_eq_ok (choice.literal captures).1 groupSpelled,
    Binding.render_eq_ok (choice.literal captures').2 letterSpelled,
    choice.marked_group newParts filled, choice.marked_letter newParts,
    if_neg (not_or_intro filled takes.other), takes.alone, List.append_nil, choice.bound.1,
    choice.bound.2, Option.any_some]
  cases capital : p.isUpper with
  | false => rw [if_neg (by simp), if_neg (by simp), Text.nfc_nfc]
  | true =>
    rw [if_pos rfl, if_pos rfl, spelled.nfc_capitalize_nfc marked]
    rw [newParts.nfd_marks]
    exact noIota capital

/-- The group writes the marks of the alternative. -/
theorem marks_render_group (noIota : p.isUpper = true → subscriptIota ∉ new.marks)
    {written : Text} (renders : group.render captures convention = .ok written) :
    (written.marks.filter group.keepsMark).Perm new.marks := by
  obtain rfl := Except.ok.inj (renders.symm.trans
    (Binding.render_eq_ok (choice.literal captures).1 groupSpelled))
  refine (group.marks_raised_perm _).trans ?_
  rw [choice.marked_group newParts filled]
  refine (((Binding.marks_letters_append groupSpelled _).trans new.marks_marks).filter _).trans
    (.of_eq (Binding.filter_keepsMark ?_))
  rwa [choice.bound.1]

/-- Both write the same marks only if the new letter gets no other ones. -/
theorem takesOnly_of_marks_perm {letters' : Text}
    (letterSpelled : letter.letters convention (Text.literal new.base) = .ok letters')
    (marked : ∀ m ∈ p.marks, isMark m = true) (final : ∀ m ∈ p.marks, decompose m = [m])
    (noIota : p.isUpper = true →
      subscriptIota ∉ new.marks ∧ subscriptIota ∉ (p.carriedOver old new).marks)
    {written written' : Text} (groupRenders : group.render captures convention = .ok written)
    (letterRenders : letter.render captures' convention = .ok written')
    (same : written.marks.Perm written'.marks) : p.TakesOnly old new := by
  have carriedMarks : ∀ m ∈ p.carriedOver old new, isMark m = true := by
    rw [← choice.writtenMarks_letter newParts]
    refine isMark_of_mem_writtenMarks (fun q bound => ?_) newParts.literalMarks_base
    obtain rfl := Option.some.inj (choice.bound.2.symm.trans bound)
    exact marked
  have groupMarks := choice.marks_render_group newParts filled groupSpelled captures
    (fun capital => (noIota capital).1) groupRenders
  have letterMarks := choice.marks_render_letter newParts filled captures' letterSpelled noIota
    letterRenders
  have keeps : letter.keepsMark = group.keepsMark := by
    funext m
    rw [Binding.keepsMark, Binding.keepsMark, choice.bound.1, choice.bound.2]
  rw [keeps] at letterMarks
  have whole := groupMarks.symm.trans ((same.filter _).trans letterMarks)
  by_cases again : new.marks = old.marks
  · -- The marks would be among those that the old letter has taken away.
    rw [if_pos again, List.append_nil] at whole
    obtain ⟨m, hm⟩ := List.exists_mem_of_ne_nil _ filled
    exact absurd (again ▸ hm) (Phoneme.mem_marks_carriedOver final (whole.mem_iff.1 hm))
  · -- The marks are there once already, so that there is no room for any that go over.
    rw [if_neg again] at whole
    have lengths := whole.length_eq
    rw [List.length_append] at lengths
    have none : (p.carriedOver old new).marks = [] := List.eq_nil_of_length_eq_zero (by omega)
    exact ⟨again, Text.eq_nil_of_marks_eq_nil carriedMarks none⟩

end Filled

end Binding.IsChoice

/-! ## Matches -/

/-- The rule of a letter accepts the phonemes that fit the literal of the letter in a group. -/
theorem accepts_ofLetters_iff {old new : Text} {x : Char} {oldMarks : Text}
    (parts : old.HasParts x oldMarks) (keeps : KeepsDigraph x oldMarks) {q : Phoneme} :
    (Step.ofLetters old new).Accepts q ↔ q.Fits (Text.literal old.nfd) := by
  have key : (Text.literal old.base).literalKey = (Text.literal old.nfd).literalKey := by
    rw [parts.base, parts.whole,
      (literal_of_keepsDigraph parts.sign.final parts.sign.letter parts.follow.marked keeps).1,
      (literal_of_keepsDigraph parts.sign.final parts.sign.letter (List.forall_mem_nil _)
        keeps.bare).1]
  simp [Step.Accepts, Step.ofLetters, Phoneme.Fits, key, parts.literalMarks_base,
    parts.literalMarks_eq, parts.nfd_marks]

/-- Where a group matches, so does the letter of the alternative that is chosen. -/
theorem exists_isChoice_of_findMatch? {olds news : List Text} (several : 2 ≤ olds.length)
    (sizes : news.length = olds.length) (oldLetters : ∀ a ∈ olds, a.IsMarkedLetter) {word : Text}
    {m : Match}
    (found : (Step.ofGroups olds news).variant.findMatch?
      (phonemes DigraphTable.rules word.nfc) = some m) :
    ∃ group letter p old new m', m.bindings = [group] ∧ olds[group.choice]? = some old ∧
      news[group.choice]? = some new ∧ p ∈ phonemes DigraphTable.rules word.nfc ∧
      p.Fits (Text.literal old.nfd) ∧
      (Step.ofLetters old new).variant.findMatch? (phonemes DigraphTable.rules word.nfc) = some m' ∧
      m'.start = m.start ∧ m'.stop = m.stop ∧ m'.bindings = [letter] ∧
      Binding.IsChoice group letter p old new := by
  have groupConsumes : (Step.ofGroups olds news).consumes = true := by
    have filled : olds ≠ [] := List.ne_nil_of_length_pos (by omega)
    simp [Step.consumes, Step.ofGroups, filled]
  obtain ⟨stop, earlier, p, i, here, _, prefers, bindings⟩ :=
    findMatch?_singleStep groupConsumes found
  have inWord := List.mem_of_getElem? here
  obtain ⟨literal, listed, fits, _⟩ := prefers
  obtain ⟨old, oldHere, rfl⟩ : ∃ old, olds[i]? = some old ∧ Text.literal old.nfd = literal := by
    rwa [Step.ofGroups, List.getElem?_map, Option.map_eq_some_iff] at listed
  have inside : i < news.length := sizes ▸ (List.getElem?_eq_some_iff.1 oldHere).1
  have newHere := List.getElem?_eq_getElem inside
  obtain ⟨x, oldMarks, parts⟩ := (oldLetters old (List.mem_of_getElem? oldHere)).exists_parts
  have keeps := (exists_key_of_fits inWord parts fits).2.2
  -- The group accepts whatever the letter accepts, so that no earlier phoneme matches.
  have first : ∀ j < m.start, ∀ q, (phonemes DigraphTable.rules word.nfc)[j]? = some q →
      ¬(Step.ofLetters old news[i]).Accepts q := by
    intro j before q there accepts
    refine earlier j before q there ⟨⟨Text.literal old.nfd, ?_, ?_⟩, by simp [Step.ofGroups]⟩
    · exact List.mem_map_of_mem (List.mem_of_getElem? oldHere)
    · exact (accepts_ofLetters_iff parts keeps).1 accepts
  obtain ⟨m', k, letterFound, start, letterStop, letterPrefers, letterBindings⟩ :=
    exists_findMatch?_singleStep rfl here ((accepts_ofLetters_iff parts keeps).2 fits) first
  obtain rfl : k = 0 := by
    obtain ⟨_, only, _⟩ := letterPrefers
    have room := (List.getElem?_eq_some_iff.1 only).1
    simpa [Step.ofLetters] using room
  refine ⟨_, _, p, old, news[i], m', bindings, oldHere, newHere, inWord, fits, letterFound, start,
    letterStop.trans stop.symm, letterBindings, ?_⟩
  exact isChoice_of_getElem? (sizes ▸ several) oldHere newHere parts p

theorem substitute_eq_ok_of_singleton {v : Variant} {word : Text} {m : Match}
    (convention : Option Convention) {b : Binding} {written : Text}
    (found : v.findMatch? (phonemes DigraphTable.rules word.nfc) = some m)
    (bindings : m.bindings = [b])
    (rendered : b.render m.captures (convention.getD (Convention.detect word.nfc)) =
      .ok written) :
    v.substitute word convention = .ok (some (Text.nfc (
      word.nfc.take (m.startOffset (phonemes DigraphTable.rules word.nfc) word.nfc) ++ written ++
        word.nfc.drop (m.stopOffset (phonemes DigraphTable.rules word.nfc) word.nfc)))) := by
  have all : m.bindings.mapM (fun b =>
      b.render m.captures (convention.getD (Convention.detect word.nfc))) = .ok [written] := by
    rw [bindings, List.mapM_cons, List.mapM_nil, rendered]
    rfl
  rw [substitute_eq_ok_of_findMatch? convention found all, List.flatten_singleton]

/-- Texts that are the same after composing have the same marks where they differ. -/
theorem marks_perm_of_nfc_eq {before after t u : Text}
    (same : Text.nfc (before ++ t ++ after) = Text.nfc (before ++ u ++ after)) :
    t.marks.Perm u.marks := by
  have parts (t : Text) :
      (before ++ t ++ after).marks.Perm (before.marks ++ t.marks ++ after.marks) :=
    (Text.marks_append _ after).trans ((Text.marks_append before t).append_right after.marks)
  have whole := congrArg Text.marks same
  rw [Text.marks_nfc, Text.marks_nfc] at whole
  have cut := (parts t).symm.trans (.trans (.of_eq whole) (parts u))
  exact (List.perm_append_left_iff _).1 ((List.perm_append_right_iff _).1 cut)

/-- Let a rule replace a group of letters with marks by another one, and let it match a word. The rule
    of the alternative that is chosen matches too. Both make the same of the word if the new
    alternative has no marks. If it has, and is the same phoneme with them as without, they make the
    same of it if these are not the marks of the old alternative and no other mark of the phoneme
    goes over; and, but for an iota below a capital, only then. -/
theorem group_substitutes_as_letter {olds news : List Text} (several : 2 ≤ olds.length)
    (sizes : news.length = olds.length) (oldLetters : ∀ a ∈ olds, a.IsMarkedLetter)
    (newLetters : ∀ a ∈ news, a.IsMarkedLetter) (word : Text) (convention : Option Convention) :
    ∃ v, compile (ruleBetween (groupOf olds) (groupOf news)) = .ok [v] ∧
      ∀ m, v.findMatch? (phonemes DigraphTable.rules word.nfc) = some m →
        ∃ b p old new w result result', m.bindings = [b] ∧ b.phoneme = some p ∧
          olds[b.choice]? = some old ∧ news[b.choice]? = some new ∧
          compile (ruleBetween old new) = .ok [w] ∧
          v.substitute word convention = .ok (some result) ∧
          w.substitute word convention = .ok (some result') ∧
          (new.marks = [] → result = result') ∧
          (new.marks ≠ [] →
            (p.ReadsAlike new → p.TakesOnly old new → result = result') ∧
            ((p.isUpper = true →
                subscriptIota ∉ new.marks ∧ subscriptIota ∉ (p.carriedOver old new).marks) →
              result = result' → p.TakesOnly old new)) := by
  refine ⟨_, compile_groups several sizes oldLetters newLetters, fun m found => ?_⟩
  obtain ⟨group, letter, p, old, new, m', bindings, oldHere, newHere, inWord, fits, letterFound,
    start, stop, letterBindings, choice⟩ :=
    exists_isChoice_of_findMatch? several sizes oldLetters found
  have oldLetter := oldLetters old (List.mem_of_getElem? oldHere)
  have newLetter := newLetters new (List.mem_of_getElem? newHere)
  obtain ⟨x, oldMarks, oldParts⟩ := oldLetter.exists_parts
  obtain ⟨y, newMarks, newParts⟩ := newLetter.exists_parts
  obtain ⟨groupBase, letterBase⟩ := newParts.base_literals
  obtain ⟨letters, groupSpelled, spelled⟩ := Binding.exists_isSpelled_letters inWord oldParts
    newParts fits choice.bound.1 groupBase (convention.getD (Convention.detect word.nfc))
  obtain ⟨letters', letterSpelled, _⟩ := Binding.exists_isSpelled_letters inWord oldParts
    newParts fits choice.bound.2 letterBase (convention.getD (Convention.detect word.nfc))
  have groupRenders := Binding.render_eq_ok (choice.literal m.captures).1 groupSpelled
  have letterRenders := Binding.render_eq_ok (choice.literal m'.captures).2 letterSpelled
  have substituted := substitute_eq_ok_of_singleton convention found bindings groupRenders
  have substituted' :=
    substitute_eq_ok_of_singleton convention letterFound letterBindings letterRenders
  -- The two results can differ only in what the binding has written.
  have place := Match.offsets_congr start stop (phonemes DigraphTable.rules word.nfc) word.nfc
  rw [place.1, place.2] at substituted'
  refine ⟨group, p, old, new, _, _, _, bindings, choice.bound.1, oldHere, newHere,
    compile_letters oldLetter newLetter, substituted, substituted', fun bare => ?_,
    fun filled => ⟨fun reads takes => ?_, fun noIota same => ?_⟩⟩
  · have same := choice.render_eq_of_bare newParts bare m.captures m'.captures
      (convention.getD (Convention.detect word.nfc))
    rw [Except.ok.inj (groupRenders.symm.trans (same.trans letterRenders))]
  · have keys := key_eq_literalKey_iff inWord oldParts newParts fits reads.key
    have sameLetters := Binding.letters_congr choice.bound.1 choice.bound.2
      (letterBase.trans groupBase.symm) keys (convention.getD (Convention.detect word.nfc))
    have same := choice.render_eq_of_takesOnly newParts filled groupSpelled m.captures m'.captures
      (sameLetters.trans groupSpelled) spelled reads.capital takes
    rw [Except.ok.inj (groupRenders.symm.trans (same.trans letterRenders))]
  · have marked := isMark_of_mem_marks_phonemes inWord
    have final : ∀ m ∈ p.marks, decompose m = [m] := fun m hm =>
      decompose_eq_self_of_mem_nfd (nfd_marks_of_mem_phonemes inWord ▸ hm)
    exact choice.takesOnly_of_marks_perm newParts filled groupSpelled m.captures m'.captures
      letterSpelled marked final noIota groupRenders letterRenders (marks_perm_of_nfc_eq same)

-- The vowel has a capital, and its dot below is the one that the old alternative takes away.
theorem group_substitutes_as_letter_of_capital :
    ∃ v w result,
      compile (ruleBetween (groupOf [['ạ'], ['e']]) (groupOf [['ó'], ['í']])) = .ok [v] ∧
      compile (ruleBetween ['ạ'] ['ó']) = .ok [w] ∧
      v.substitute ['Ạ', 'l'] none = .ok (some result) ∧
      w.substitute ['Ạ', 'l'] none = .ok (some result) := by
  have oldLetters : ∀ a ∈ ([['ạ'], ['e']] : List Text), a.IsMarkedLetter := by decide +kernel
  have newLetters : ∀ a ∈ ([['ó'], ['í']] : List Text), a.IsMarkedLetter := by decide +kernel
  obtain ⟨v, compiled, agree⟩ := group_substitutes_as_letter (by decide) (by decide) oldLetters
    newLetters ['Ạ', 'l'] none
  have single : compile (ruleBetween (groupOf [['ạ'], ['e']]) (groupOf [['ó'], ['í']])) =
      .ok [(Step.ofGroups [['ạ'], ['e']] [['ó'], ['í']]).variant] :=
    compile_groups (by decide) (by decide) oldLetters newLetters
  obtain rfl : v = (Step.ofGroups [['ạ'], ['e']] [['ó'], ['í']]).variant := by
    simpa using Except.ok.inj (compiled.symm.trans single)
  have found : (Step.ofGroups [['ạ'], ['e']] [['ó'], ['í']]).variant.findMatch?
      (phonemes DigraphTable.rules (Text.nfc ['Ạ', 'l'])) = some {
        start := 0, stop := 1, captures := []
        bindings := [⟨Step.ofGroups [['ạ'], ['e']] [['ó'], ['í']],
          some ⟨['Ạ'], ['a'], ['\u0323'], 0, 1⟩, 0⟩] } := by
    decide +kernel
  obtain ⟨b, p, old, new, w, result, result', bindings, bound, oldHere, newHere, compiled', made,
    made', _, filled⟩ := agree _ found
  obtain rfl := List.singleton_inj.1 bindings
  obtain rfl := Option.some.inj bound
  obtain rfl := Option.some.inj oldHere
  obtain rfl := Option.some.inj newHere
  have reads : Phoneme.ReadsAlike ⟨['Ạ'], ['a'], ['\u0323'], 0, 1⟩ ['ó'] :=
    ⟨by decide +kernel, by decide +kernel⟩
  have takes : Phoneme.TakesOnly ⟨['Ạ'], ['a'], ['\u0323'], 0, 1⟩ ['ạ'] ['ó'] :=
    ⟨by decide +kernel, by decide +kernel⟩
  obtain rfl := (filled (by decide +kernel)).1 reads takes
  exact ⟨_, w, result, compiled, compiled', made, made'⟩

/-- The letter of a slot loses the mark that both sides have, where a group keeps it; and it keeps the
    marks of the phoneme, where an alternative with a mark of its own loses them. -/
theorem group_differs_from_letter :
    (∃ v w, compile (ruleBetween (groupOf [['á'], ['é']]) (groupOf [['ó'], ['ú']])) = .ok [v] ∧
        (v.findMatch? (phonemes DigraphTable.rules (Text.nfc ['á']))).map
          (fun m => m.bindings.map Binding.choice) = some [0] ∧
        v.substitute ['á'] none = .ok (some ['ó']) ∧
        compile (ruleBetween ['á'] ['ó']) = .ok [w] ∧
        w.substitute ['á'] none = .ok (some ['o'])) ∧
      (∃ v w, compile (ruleBetween (groupOf [['a'], ['e']]) (groupOf [['á'], ['é']])) = .ok [v] ∧
        (v.findMatch? (phonemes DigraphTable.rules (Text.nfc ['ạ']))).map
          (fun m => m.bindings.map Binding.choice) = some [0] ∧
        v.substitute ['ạ'] none = .ok (some ['á']) ∧
        compile (ruleBetween ['a'] ['á']) = .ok [w] ∧
        w.substitute ['ạ'] none = .ok (some ['ạ', '\u0301'])) := by
  have group {olds news : List Text} (several : 2 ≤ olds.length) (sizes : news.length = olds.length)
      (letters : ∀ a ∈ olds ++ news, a.IsMarkedLetter) :
      compile (ruleBetween (groupOf olds) (groupOf news)) =
        .ok [(Step.ofGroups olds news).variant] :=
    compile_groups several sizes (fun a ha => letters a (List.mem_append_left news ha))
      fun a ha => letters a (List.mem_append_right olds ha)
  refine ⟨⟨_, _, group (by decide) rfl (by decide +kernel), by decide +kernel, ?_,
    compile_letters (by decide +kernel) (by decide +kernel), ?_⟩,
    ⟨_, _, group (by decide) rfl (by decide +kernel), by decide +kernel, ?_,
    compile_letters (by decide +kernel) (by decide +kernel), ?_⟩⟩
  all_goals
    apply eq_ok_of_toOption_eq_some
    decide +kernel

end SoundLaw
