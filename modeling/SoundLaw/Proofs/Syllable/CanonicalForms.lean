/-
  SoundLaw.Proofs.Syllable.CanonicalForms

  The two canonical forms of a word have the same syllables. Their phonemes correspond one by one,
  so nuclei and boundaries stand in the same places, and a run of phonemes between two places is
  spelled by the two forms of one text. Structure and weight are read off the end of a syllable as it
  is written, and so they are only compared where no consonant there is composed; stress depends on
  the weight of the last syllable but one alone.
-/
import SoundLaw.Proofs.Syllable.Partition
import SoundLaw.Proofs.Syllable.Prosody

namespace SoundLaw

variable {v : VowelSystem} {word : Text} {compound : Bool} {ps qs : List Phoneme}

theorem filled_forSyllables (compound : Bool) : ∀ d ∈ DigraphTable.forSyllables compound, d.1 ≠ [] := by
  cases compound <;> decide

theorem sharesLetters_forSyllables (compound : Bool) :
    (DigraphTable.forSyllables compound).SharesLetters := by
  cases compound with
  | true => exact sharesLetters_letters
  | false =>
    have each : (DigraphTable.syllables.all fun d => d.1.all fun k =>
        DigraphTable.rules.any fun e => e.1.contains k) = true := by decide
    intro d hd k hk
    have shared := List.all_eq_true.1 (List.all_eq_true.1 each d hd) k hk
    obtain ⟨e, he, member⟩ := List.any_eq_true.1 shared
    exact ⟨e, he, List.contains_iff_mem.1 member⟩

/-! ## Nuclei and boundaries -/

theorem map_key_eq (alike : List.Forall₂ Phoneme.Alike ps qs) :
    ps.map Phoneme.key = qs.map Phoneme.key := by
  induction alike with
  | nil => rfl
  | cons here _ ih => rw [List.map_cons, List.map_cons, here.key, ih]

theorem nucleiFrom_eq (alike : List.Forall₂ Phoneme.Alike ps qs) (place : Nat) :
    v.nucleiFrom place ps = v.nucleiFrom place qs := by
  -- Along the phonemes of one form: the other one takes the same branch, since a diphthong is told by
  -- texts that have one form only, and a vowel by its key.
  induction place, ps using nuclei_scan generalizing qs with
  | done place =>
    cases alike
    rfl
  | diphthong place p q ps opens ih =>
    obtain ⟨p', _, here, later, rfl⟩ := List.forall₂_cons_left_iff.1 alike
    obtain ⟨q', qs, next, rest, rfl⟩ := List.forall₂_cons_left_iff.1 later
    rw [nucleiFrom_of_isDiphthong opens, ih rest]
    rw [isDiphthong_append_eq here.text next.text] at opens
    rw [nucleiFrom_of_isDiphthong opens]
  | hiatus place p ps apart ih =>
    obtain ⟨p', qs, here, later, rfl⟩ := List.forall₂_cons_left_iff.1 alike
    have apart' : ∀ q ∈ qs.head?, ¬isDiphthong (p'.text ++ q.text) = true := by
      intro q' hq'
      cases later with
      | nil => exact absurd hq' (by simp)
      | @cons q _ _ _ next _ =>
        obtain rfl := Option.some.inj hq'
        rw [← isDiphthong_append_eq here.text next.text]
        exact apart q rfl
    rw [nucleiFrom_of_hiatus apart, nucleiFrom_of_hiatus apart', ih later, VowelSystem.nucleusAt,
      VowelSystem.nucleusAt, here.key]

theorem boundaries_eq (alike : List.Forall₂ Phoneme.Alike ps qs) (nuclei : List Nucleus) :
    boundaries ps nuclei = boundaries qs nuclei := by
  -- The only phonemes that a boundary looks at are those of a possible onset, by their keys.
  have between : boundary ps = boundary qs := by
    funext left right
    rw [boundary, boundary, isOnset, isOnset, List.flatMap_def, List.map_take, List.map_drop,
      map_key_eq alike, ← List.map_drop, ← List.map_take, ← List.flatMap_def]
  rw [boundaries, boundaries, between, alike.length_eq]

/-! ## Parts -/

/-- How a part of a composed word is tied to one of the decomposed word: each is the run of phonemes
    between two places, and they have their nucleus in the same place. -/
structure Part.Alike (ps qs : List Phoneme) (part other : Part) : Prop where
  run : ∃ a b, part.phonemes = (ps.drop a).take b ∧ other.phonemes = (qs.drop a).take b
  text : part.text = part.phonemes.flatMap Phoneme.text
  otherText : other.text = other.phonemes.flatMap Phoneme.text
  nucleus : part.nucleus = other.nucleus

theorem length_divide_eq {w u : Text}
    (alike : List.Forall₂ Phoneme.Alike (phonemes (DigraphTable.forSyllables compound) w)
      (phonemes (DigraphTable.forSyllables compound) u)) :
    (v.divide w compound).length = (v.divide u compound).length := by
  have nuclei := nucleiFrom_eq (v := v) alike 0
  rcases Nat.lt_or_ge (v.nuclei (phonemes (DigraphTable.forSyllables compound) w)).length 2
    with few | many
  · rw [divide_of_few few, divide_of_few (by rwa [VowelSystem.nuclei, ← nuclei])]
    rfl
  · rw [length_divide rfl rfl many, length_divide rfl nuclei.symm many]
    rfl

theorem alike_getElem?_divide {w u : Text}
    (alike : List.Forall₂ Phoneme.Alike (phonemes (DigraphTable.forSyllables compound) w)
      (phonemes (DigraphTable.forSyllables compound) u)) {i : Nat} {part other : Part}
    (here : (v.divide w compound)[i]? = some part)
    (there : (v.divide u compound)[i]? = some other) :
    part.Alike (phonemes (DigraphTable.forSyllables compound) w)
      (phonemes (DigraphTable.forSyllables compound) u) other := by
  have nuclei := nucleiFrom_eq (v := v) alike 0
  rcases Nat.lt_or_ge (v.nuclei (phonemes (DigraphTable.forSyllables compound) w)).length 2
    with few | many
  · -- The whole words.
    rw [divide_of_few few, List.getElem?_singleton] at here
    rw [divide_of_few (by rwa [VowelSystem.nuclei, ← nuclei]), List.getElem?_singleton] at there
    obtain ⟨_, here⟩ := Option.ite_none_right_eq_some.1 here
    obtain ⟨_, there⟩ := Option.ite_none_right_eq_some.1 there
    obtain rfl := Option.some.inj here
    obtain rfl := Option.some.inj there
    refine ⟨⟨0, _, (List.take_length).symm, ?_⟩, (flatMap_text_phonemes _ _).symm,
      (flatMap_text_phonemes _ _).symm, congrArg List.head? nuclei⟩
    dsimp only
    rw [alike.length_eq, List.drop_zero, List.take_length]
  · obtain ⟨start, stop, n, first, last, listed, _, _, run⟩ :=
      isSyllable_of_getElem?_divide rfl rfl many here
    obtain ⟨start', stop', n', first', last', listed', _, _, run'⟩ :=
      isSyllable_of_getElem?_divide rfl nuclei.symm many there
    rw [← boundaries_eq alike] at first' last'
    obtain rfl : start = start' := Option.some.inj (first.symm.trans first')
    obtain rfl : stop = stop' := Option.some.inj (last.symm.trans last')
    obtain rfl : n = n' := Option.some.inj (listed.symm.trans listed')
    exact ⟨⟨start, stop - start, run.run, run'.run⟩, run.text, run'.text,
      run.nucleus.trans run'.nucleus.symm⟩

/-! ## Syllables -/

/-- How a syllable of a composed word is tied to one of the decomposed word by its spelling. -/
structure Syllable.SpelledAlike (s t : Syllable) : Prop where
  text : s.text.AreForms t.text
  onset : s.onset.AreForms t.onset
  nucleus : s.nucleus.AreForms t.nucleus
  coda : s.coda.AreForms t.coda

section

variable {table : DigraphTable} {part other : Part}

theorem areForms_text_of_alike (alike : List.Forall₂ Phoneme.Alike (phonemes table word.nfc) qs)
    (same : part.Alike (phonemes table word.nfc) qs other) : part.text.AreForms other.text := by
  obtain ⟨a, b, run, run'⟩ := same.run
  rw [same.text, same.otherText, run, run']
  exact areForms_run alike a b

theorem spelledAlike_ofPart (alike : List.Forall₂ Phoneme.Alike (phonemes table word.nfc) qs)
    (same : part.Alike (phonemes table word.nfc) qs other) (isStressed isStressed' : Bool) :
    (Syllable.ofPart part isStressed).SpelledAlike (Syllable.ofPart other isStressed') := by
  have text := areForms_text_of_alike alike same
  have empty : Text.AreForms [] [] := ⟨rfl, rfl⟩
  obtain ⟨a, b, run, run'⟩ := same.run
  rw [Syllable.ofPart, Syllable.ofPart, ← same.nucleus]
  cases part.nucleus with
  | none => exact ⟨text, text, empty, empty⟩
  | some n =>
    dsimp only
    rw [run, run']
    -- Onset, nucleus and coda are runs in the run that makes the syllable.
    refine ⟨text, ?_, ?_, ?_⟩ <;> dsimp only
    · rw [List.take_take, List.take_take]
      exact areForms_run alike a _
    · rw [List.take_take, List.take_take, List.drop_take, List.drop_take, List.drop_drop,
        List.drop_drop]
      exact areForms_run alike _ _
    · rw [List.drop_take, List.drop_take, List.drop_drop, List.drop_drop]
      exact areForms_run alike _ _

theorem mem_of_mem_text (same : part.Alike (phonemes table word) qs other) {c : Char}
    (h : c ∈ part.text) : c ∈ word := by
  obtain ⟨a, b, run, _⟩ := same.run
  rw [same.text, run] at h
  obtain ⟨p, member, inside⟩ := List.mem_flatMap.1 h
  rw [← flatMap_text_phonemes table word]
  exact List.mem_flatMap.2 ⟨p, List.mem_of_mem_drop (List.mem_of_mem_take member), inside⟩

/-- Parts of words of letters and marks agree in structure and weight, composed consonants at their
    ends apart. -/
theorem prosody_of_alike (alike : List.Forall₂ Phoneme.Alike (phonemes table word.nfc) qs)
    (filled : ∀ c ∈ word, isBlank c = false) (single : ∀ c ∈ word.nfc, hangulLetters? c = none)
    (same : part.Alike (phonemes table word.nfc) qs other) :
    (¬part.text.EndsInComposedConsonant →
        part.text.endsInConsonant = other.text.endsInConsonant) ∧
      (¬part.text.IsHeavyByComposedConsonant → part.text.weight = other.text.weight) := by
  have text := areForms_text_of_alike alike same
  have singles : ∀ c ∈ part.text, hangulLetters? c = none :=
    fun c hc => single c (mem_of_mem_text same hc)
  have visible : ∀ c ∈ part.text, isBlank c = false :=
    fun c hc => not_isBlank_of_mem_nfc filled c (mem_of_mem_text same hc)
  exact ⟨text.endsInConsonant singles visible, text.weight singles visible⟩

end

/-! ## Stress -/

/-- The syllable whose weight decides where the stress is: the last but one of three or more. -/
def decisive? (syllables : List Syllable) : Option Syllable :=
  if syllables.length < 3 then none else syllables[syllables.length - 2]?

/-- Stress depends on how many syllables there are, and from three on, on the weight of the last but
    one. -/
theorem stressed?_eq {ws us : List Weight} (length : ws.length = us.length)
    (decisive : 3 ≤ ws.length → ws[ws.length - 2]? = us[ws.length - 2]?) :
    stressed? ws = stressed? us := by
  rw [stressed?, stressed?, ← length]
  rcases Nat.lt_or_ge ws.length 3 with few | many
  · rcases Nat.lt_or_ge ws.length 2 with one | two
    · rw [if_pos one, if_pos one]
    · have same : ws.length = 2 := by omega
      simp only [if_neg (Nat.not_lt.2 two), if_pos same]
  · rw [decisive many]

theorem stressed?_divide_eq
    (alike : List.Forall₂ Phoneme.Alike (phonemes (DigraphTable.forSyllables compound) word.nfc)
      (phonemes (DigraphTable.forSyllables compound) word.nfd))
    (filled : ∀ c ∈ word, isBlank c = false) (single : ∀ c ∈ word.nfc, hangulLetters? c = none)
    (plain : ∀ s ∈ decisive? (v.analyse word.nfc compound), ¬s.text.IsHeavyByComposedConsonant) :
    stressed? ((v.divide word.nfc compound).map (·.text.weight)) =
      stressed? ((v.divide word.nfd compound).map (·.text.weight)) := by
  have length := length_divide_eq (v := v) alike
  apply stressed?_eq
  · rw [List.length_map, List.length_map, length]
  · rw [List.length_map]
    intro many
    -- The weights that decide are those of two parts in one place.
    generalize place : (v.divide word.nfc compound).length - 2 = i
    obtain ⟨part, here⟩ : ∃ part, (v.divide word.nfc compound)[i]? = some part :=
      ⟨_, List.getElem?_eq_getElem (by omega)⟩
    obtain ⟨other, there⟩ : ∃ other, (v.divide word.nfd compound)[i]? = some other :=
      ⟨_, List.getElem?_eq_getElem (by omega)⟩
    rw [decisive?, length_analyse, if_neg (by omega), getElem?_analyse, place, here] at plain
    have same := alike_getElem?_divide alike here there
    rw [List.getElem?_map, List.getElem?_map, here, there, Option.map_some, Option.map_some,
      (prosody_of_alike alike filled single same).2 (plain _ rfl)]

/-! ## Words -/

/-- A word that keeps its digraphs has the same syllables in both canonical forms, each spelled by the
    two forms of one text. A syllable keeps its structure unless a composed consonant ends it, and its
    weight unless nothing else makes it heavy; the stress stays if the syllable that decides it keeps
    its weight. -/
theorem analyse_canonical_forms (v : VowelSystem) (word : Text) (compound : Bool)
    (filled : ∀ c ∈ word, isBlank c = false)
    (single : ∀ c ∈ word.nfc, hangulLetters? c = none)
    (keeps : word.KeepsDigraphs (DigraphTable.forSyllables compound)) :
    (v.analyse word.nfc compound).length = (v.analyse word.nfd compound).length ∧
      ∀ (i : Nat) (s t : Syllable), (v.analyse word.nfc compound)[i]? = some s →
        (v.analyse word.nfd compound)[i]? = some t →
          s.SpelledAlike t ∧
          (¬s.text.EndsInComposedConsonant → s.isClosed = t.isClosed) ∧
          (¬s.text.IsHeavyByComposedConsonant → s.weight = t.weight) ∧
          ((∀ p ∈ decisive? (v.analyse word.nfc compound), ¬p.text.IsHeavyByComposedConsonant) →
            s.isStressed = t.isStressed) := by
  have alike := alike_phonemes (filled_forSyllables compound) (sharesLetters_forSyllables compound)
    single keeps
  have length := length_divide_eq (v := v) alike
  refine ⟨by rw [length_analyse, length_analyse, length], fun i s t hs ht => ?_⟩
  rw [getElem?_analyse] at hs ht
  obtain ⟨part, here, rfl⟩ := Option.map_eq_some_iff.1 hs
  obtain ⟨other, there, rfl⟩ := Option.map_eq_some_iff.1 ht
  have same := alike_getElem?_divide alike here there
  obtain ⟨closed, weight⟩ := prosody_of_alike alike filled single same
  refine ⟨spelledAlike_ofPart alike same _ _, ?_⟩
  -- What is left is read off the texts of the two parts, and off the place of the stress.
  simp only [text_ofPart, weight_ofPart, isClosed_ofPart, isStressed_ofPart]
  refine ⟨closed, weight, fun plain => ?_⟩
  rw [stressed?_divide_eq alike filled single plain]

-- The acute and the diaeresis of `máthëlen` are written apart, and `th` is one phoneme.
theorem analyse_canonical_forms_of_digraph :
    let word : Text := ['m', 'a', '\u0301', 't', 'h', 'e', '\u0308', 'l', 'e', 'n']
    (∀ c ∈ word, isBlank c = false) ∧ (∀ c ∈ word.nfc, hangulLetters? c = none) ∧
      word.KeepsDigraphs (DigraphTable.forSyllables false) ∧
      ∃ s t : Syllable, (VowelSystem.analyse {} word.nfc false)[1]? = some s ∧
        (VowelSystem.analyse {} word.nfd false)[1]? = some t ∧ s.SpelledAlike t ∧
        s.isClosed = t.isClosed ∧ s.weight = t.weight ∧ s.isStressed = t.isStressed := by
  intro word
  have filled : ∀ c ∈ word, isBlank c = false := by
    have each : (word.all fun c => isBlank c == false) = true := by decide
    simpa only [List.all_eq_true, beq_iff_eq] using each
  have single : ∀ c ∈ word.nfc, hangulLetters? c = none := by
    have each : (word.nfc.all fun c => hangulLetters? c == none) = true := by decide +kernel
    simpa only [List.all_eq_true, beq_iff_eq] using each
  have keeps : word.KeepsDigraphs (DigraphTable.forSyllables false) := by decide +kernel
  have composed : (VowelSystem.analyse {} word.nfc false)[1]? = some
      { text := ['t', 'h', 'ë'], onset := ['t', 'h'], nucleus := ['ë'], coda := [],
        weight := .light, isClosed := false, isStressed := false } := by decide +kernel
  have decomposed : (VowelSystem.analyse {} word.nfd false)[1]? = some
      { text := ['t', 'h', 'e', '\u0308'], onset := ['t', 'h'], nucleus := ['e', '\u0308'],
        coda := [], weight := .light, isClosed := false, isStressed := false } := by decide +kernel
  have plain : ¬Text.EndsInComposedConsonant ['t', 'h', 'ë'] := by decide +kernel
  have decisive : decisive? (VowelSystem.analyse {} word.nfc false) = some
      { text := ['t', 'h', 'ë'], onset := ['t', 'h'], nucleus := ['ë'], coda := [],
        weight := .light, isClosed := false, isStressed := false } := by decide +kernel
  obtain ⟨spelled, closed, weight, stress⟩ :=
    (analyse_canonical_forms {} word false filled single keeps).2 1 _ _ composed decomposed
  have stressed := stress (by
    intro p hp heavy
    rw [decisive, Option.mem_some_iff] at hp
    obtain rfl := hp
    exact plain heavy.1)
  exact ⟨filled, single, keeps, _, _, composed, decomposed, spelled, closed plain,
    weight fun heavy => plain heavy.1, stressed⟩

/-- The two forms of a word are analysed differently where a syllable ends in a composed consonant,
    where a mark composes with a digraph, and where the word has a Hangul syllable. -/
theorem analyse_differs_by_form :
    ((VowelSystem.analyse {} (Text.nfc ['a', 'l', 'a', 'ś', 'k', 'a']) false).map
        fun s => (s.weight, s.isClosed, s.isStressed)) =
      [(.light, false, false), (.heavy, true, true), (.light, false, false)] ∧
    ((VowelSystem.analyse {} (Text.nfd ['a', 'l', 'a', 'ś', 'k', 'a']) false).map
        fun s => (s.weight, s.isClosed, s.isStressed)) =
      [(.light, false, true), (.light, false, false), (.light, false, false)] ∧
    VowelSystem.syllabify {} (Text.nfc ['a', 't', 'ḧ', 'a']) false = [['a', 't'], ['ḧ', 'a']] ∧
    VowelSystem.syllabify {} (Text.nfd ['a', 't', 'ḧ', 'a']) false =
      [['a'], ['t', 'h', '\u0308', 'a']] ∧
    VowelSystem.syllabify {} (Text.nfc ['a', '가', 'a']) false = [['a'], ['가', 'a']] ∧
    VowelSystem.syllabify {} (Text.nfd ['a', '가', 'a']) false =
      [['a', '\u1100'], ['\u1161', 'a']] := by
  decide +kernel

end SoundLaw
