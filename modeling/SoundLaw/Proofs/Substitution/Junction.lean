/-
  SoundLaw.Proofs.Substitution.Junction

  The phonemes around a substitution. What a rule writes is read again by the next one, so a letter
  that loses its neighbour can come to form a digraph with another one, or to be composed with it:
  without its first vowel, `kaha` is read as `kh` and `a` (`substitute_joins_strandedLetters`).

  Where that does not happen at either end of what is written (`CleanJunction`), the other phonemes
  are read as before (`substitute_keeps_other_phonemes`). For this the three texts are composed each
  by itself, as the parts of a composed word are (`nfc_cut`), and then read each by itself.
-/
import SoundLaw.Proofs.Substitution.Span
import SoundLaw.Proofs.Text.Concatenation

namespace SoundLaw

/-! ## The text around a match -/

/-- The text of the phonemes before a match. -/
def Match.textBefore (m : Match) (ps : List Phoneme) : Text :=
  (ps.take m.start).flatMap Phoneme.text

/-- The text of the phonemes after a match. -/
def Match.textAfter (m : Match) (ps : List Phoneme) : Text :=
  (ps.drop m.stop).flatMap Phoneme.text

section

variable (word : Text) (k : Nat)

/-- The text before a cut is read by itself as it is read in the word. -/
theorem keys_take :
    Text.keys (((phonemes DigraphTable.rules word).take k).flatMap Phoneme.text) =
      ((phonemes DigraphTable.rules word).take k).map Phoneme.key := by
  rw [flatMap_text_take_phonemes, Text.keys_eq, graphemes_take, List.map_take, List.map_take,
    phonemes, map_key_phonemesFrom]

/-- The text after a cut is read by itself as it is read in the word. -/
theorem keys_drop :
    Text.keys (((phonemes DigraphTable.rules word).drop k).flatMap Phoneme.text) =
      ((phonemes DigraphTable.rules word).drop k).map Phoneme.key := by
  rw [flatMap_text_drop_phonemes, Text.keys_eq, graphemes_drop, List.map_drop, List.map_drop,
    phonemes, map_key_phonemesFrom]

/-- Both sides of a cut through a composed word are composed. -/
theorem nfc_cut (composed : word.nfc = word) :
    Text.nfc (((phonemes DigraphTable.rules word).take k).flatMap Phoneme.text) =
        ((phonemes DigraphTable.rules word).take k).flatMap Phoneme.text ∧
      Text.nfc (((phonemes DigraphTable.rules word).drop k).flatMap Phoneme.text) =
        ((phonemes DigraphTable.rules word).drop k).flatMap Phoneme.text := by
  cases k with
  | zero =>
    rw [List.take_zero, List.drop_zero, flatMap_text_phonemes]
    exact ⟨rfl, composed⟩
  | succ k =>
    have letter := isMark_head?_drop_graphemes DigraphTable.rules word k
    rw [← flatMap_text_drop_phonemes] at letter
    exact Text.nfc_parts letter (by rw [cut_phonemes, composed])

end

/-! ## Clean junctions -/

/-- Two texts do not interact where they meet. -/
structure CleanJunction (a b : Text) : Prop where
  /-- The second one does not begin with a mark, which would belong to the first one. -/
  unmarked : a ≠ [] → ∀ c ∈ b.head?, isMark c = false
  /-- The letters that meet do not form a Hangul syllable. -/
  apart : ∀ e ∈ a.getLast?, ∀ c ∈ b.head?, hangulSyllable? e c = none
  /-- No digraph goes on from the last grapheme of the first one into the second one. -/
  ends : ∀ g ∈ (graphemes DigraphTable.rules isMark a).getLast?, g.EndsBefore DigraphTable.rules b

/-- Whether two texts do not interact where they meet. -/
def meetCleanly (a b : Text) : Bool :=
  (a.isEmpty || b.head?.all fun c => !isMark c) &&
    (a.getLast?.all fun e => b.head?.all fun c => (hangulSyllable? e c).isNone) &&
    (graphemes DigraphTable.rules isMark a).getLast?.all fun g =>
      DigraphTable.rules.readable.all fun d =>
        !DigraphTable.opens d.1 (g.text ++ b) || decide (d.1.length ≤ g.text.length)

theorem cleanJunction_of_meetCleanly {a b : Text} (h : meetCleanly a b = true) :
    CleanJunction a b := by
  rw [meetCleanly, Bool.and_eq_true, Bool.and_eq_true, Bool.or_eq_true, Option.all_eq_true,
    Option.all_eq_true, Option.all_eq_true] at h
  obtain ⟨⟨unmarked, apart⟩, ends⟩ := h
  constructor
  · intro filled c first
    have letters := unmarked.resolve_left (by simpa using filled)
    simpa using letters c first
  · intro e last c first
    have separate := apart e last
    rw [Option.all_eq_true] at separate
    simpa using separate c first
  · intro g last d readable opening
    have short := List.all_eq_true.1 (ends g last) d readable
    rw [opening, Bool.not_true, Bool.false_or, decide_eq_true_eq] at short
    exact short

namespace CleanJunction

variable {a b : Text}

theorem nfc_append (h : CleanJunction a b) (first : a.nfc = a) (second : b.nfc = b) :
    (a ++ b).nfc = a ++ b := by
  by_cases empty : a = []
  · subst empty
    exact second
  · rw [Text.nfc_append (h.unmarked empty), first, second]
    rw [first]
    exact h.apart

theorem keys_append (h : CleanJunction a b) : Text.keys (a ++ b) = a.keys ++ b.keys := by
  by_cases empty : a = []
  · subst empty
    rw [List.nil_append, Text.keys_eq []]
    simp
  · rw [Text.keys_eq, Text.keys_eq, Text.keys_eq,
      graphemes_append DigraphTable.hasBeginnings_rules (h.unmarked empty) h.ends, List.map_append]

end CleanJunction

/-- If what is written for a match meets the text before it and the text after it in clean
    junctions, the word is read, after the substitution, as the phonemes before the match, those of
    what is written, and the phonemes after the match. -/
theorem substitute_keeps_other_phonemes {notated : Text} {variants : List Variant}
    (compiled : compile notated = .ok variants) {v : Variant} (member : v ∈ variants) (word : Text)
    (convention : Option Convention) {m : Match}
    (found : v.findMatch? (phonemes DigraphTable.rules word.nfc) = some m) {written : List Text}
    (writes : v.Writes m (convention.getD (Convention.detect word.nfc)) written)
    (left : CleanJunction (m.textBefore (phonemes DigraphTable.rules word.nfc))
      (Text.nfc written.flatten))
    (right : CleanJunction
      (m.textBefore (phonemes DigraphTable.rules word.nfc) ++ Text.nfc written.flatten)
      (m.textAfter (phonemes DigraphTable.rules word.nfc))) :
    ∃ result, v.substitute word convention = .ok (some result) ∧
      result.keys = ((phonemes DigraphTable.rules word.nfc).take m.start).map Phoneme.key ++
        (Text.nfc written.flatten).keys ++
        ((phonemes DigraphTable.rules word.nfc).drop m.stop).map Phoneme.key := by
  have wellFormed := wellFormed_of_compile compiled v member
  obtain ⟨admits, _, binds⟩ := binds_of_findMatch? found
  have stop := binds.stop
  have room := admits.room
  have rendered := mapM_eq_ok_iff.2 writes.rendered
  have spelled := substitute_eq_ok_of_findMatch? convention found rendered
  rw [take_startOffset, drop_stopOffset (by omega) (by omega), ← Text.nfc_append_nfc_append]
    at spelled
  -- All three texts are composed, so composing them together changes none of them.
  have before := (nfc_cut word.nfc m.start word.nfc_nfc).1
  have after := (nfc_cut word.nfc m.stop word.nfc_nfc).2
  have joined := left.nfc_append before (Text.nfc_nfc written.flatten)
  refine ⟨_, spelled, ?_⟩
  show Text.keys (Text.nfc (m.textBefore _ ++ Text.nfc written.flatten ++ m.textAfter _)) = _
  rw [right.nfc_append joined after, right.keys_append, left.keys_append, Match.textBefore,
    Match.textAfter, keys_take, keys_drop]

/-- What the rule that deletes an `a` matches in a word: its first `a`, of which nothing stays. -/
theorem exists_deletion (word : Text) (start stop : Nat)
    (matched : (compile ['[', 'a', ']', '>', '[', 'ø', ']']).toOption.map (·.map fun v =>
      (v.findMatch? (phonemes DigraphTable.rules word.nfc)).map fun m => (m.start, m.stop)) =
        some [some (start, stop)]) :
    ∃ v m, compile ['[', 'a', ']', '>', '[', 'ø', ']'] = .ok [v] ∧
      v.findMatch? (phonemes DigraphTable.rules word.nfc) = some m ∧ m.start = start ∧
      m.stop = stop ∧ v.Writes m (Convention.detect word.nfc) [[]] := by
  have silent : (compile ['[', 'a', ']', '>', '[', 'ø', ']']).toOption.map (·.map fun v =>
      v.steps.map fun s => s.replace.isEmpty && s.newCoindex.isNone) = some [[true]] := by
    decide +kernel
  obtain ⟨variants, compiled, each⟩ := Option.map_eq_some_iff.1 matched
  obtain ⟨v, rfl, here⟩ := List.map_eq_singleton_iff.1 each
  obtain ⟨m, found, offsets⟩ := Option.map_eq_some_iff.1 here
  obtain ⟨starts, stops⟩ := Prod.mk.inj offsets
  -- The only step of the rule writes nothing.
  rw [compiled] at silent
  obtain ⟨s, only, erases⟩ :=
    List.map_eq_singleton_iff.1 (List.singleton_inj.1 (Option.some.inj silent))
  rw [Bool.and_eq_true, List.isEmpty_iff, Option.isNone_iff_eq_none] at erases
  have compiled := eq_ok_of_toOption_eq_some compiled
  have wellFormed := wellFormed_of_compile compiled v List.mem_cons_self
  obtain ⟨written, _, writes⟩ := exists_writes wellFormed found (Convention.detect word.nfc)
  have length : written.length = 1 := by
    rw [← writes.rendered.length_eq, ← List.length_map Binding.step, writes.bound, only]
    rfl
  obtain ⟨t, rfl⟩ := List.length_eq_one_iff.1 length
  have nothing := writes.silent 0 s (by rw [only]; rfl) (Or.inr erases)
  obtain rfl : t = [] := by simpa using nothing
  exact ⟨v, m, compiled, found, starts, stops, writes⟩

-- Without its first vowel, `karta` is read as `k`, `r`, `t` and `a`.
theorem substitute_keeps_other_phonemes_of_deletion :
    ∃ v m, compile ['[', 'a', ']', '>', '[', 'ø', ']'] = .ok [v] ∧
      v.findMatch? (phonemes DigraphTable.rules (Text.nfc ['k', 'a', 'r', 't', 'a'])) = some m ∧
      v.Writes m (Convention.detect (Text.nfc ['k', 'a', 'r', 't', 'a'])) [[]] ∧
      ∃ result, v.substitute ['k', 'a', 'r', 't', 'a'] none = .ok (some result) ∧
        result.keys = [['k'], ['r'], ['t'], ['a']] := by
  obtain ⟨v, m, compiled, found, start, stop, writes⟩ :=
    exists_deletion ['k', 'a', 'r', 't', 'a'] 1 2 (by decide +kernel)
  have left : CleanJunction
      (m.textBefore (phonemes DigraphTable.rules (Text.nfc ['k', 'a', 'r', 't', 'a'])))
      (Text.nfc (List.flatten [[]])) := by
    rw [Match.textBefore, start]
    exact cleanJunction_of_meetCleanly (by decide +kernel)
  have right : CleanJunction
      (m.textBefore (phonemes DigraphTable.rules (Text.nfc ['k', 'a', 'r', 't', 'a'])) ++
        Text.nfc (List.flatten [[]]))
      (m.textAfter (phonemes DigraphTable.rules (Text.nfc ['k', 'a', 'r', 't', 'a']))) := by
    rw [Match.textBefore, Match.textAfter, start, stop]
    exact cleanJunction_of_meetCleanly (by decide +kernel)
  obtain ⟨result, spelled, keys⟩ :=
    substitute_keeps_other_phonemes compiled List.mem_cons_self _ none found writes
      left right
  refine ⟨v, m, compiled, found, writes, result, spelled, ?_⟩
  rw [keys, start, stop]
  decide +kernel

-- Without its first vowel, `kaha` is not read as `k`, `h` and `a`.
theorem substitute_joins_strandedLetters :
    ∃ v m result, compile ['[', 'a', ']', '>', '[', 'ø', ']'] = .ok [v] ∧
      v.findMatch? (phonemes DigraphTable.rules (Text.nfc ['k', 'a', 'h', 'a'])) = some m ∧
      v.Writes m (Convention.detect (Text.nfc ['k', 'a', 'h', 'a'])) [[]] ∧
      v.substitute ['k', 'a', 'h', 'a'] none = .ok (some result) ∧
      result.keys = [['x'], ['a']] ∧
      ((phonemes DigraphTable.rules (Text.nfc ['k', 'a', 'h', 'a'])).take m.start).map
          Phoneme.key ++ Text.keys (Text.nfc (List.flatten [[]])) ++
        ((phonemes DigraphTable.rules (Text.nfc ['k', 'a', 'h', 'a'])).drop m.stop).map
          Phoneme.key = [['k'], ['h'], ['a']] := by
  obtain ⟨v, m, compiled, found, start, stop, writes⟩ :=
    exists_deletion ['k', 'a', 'h', 'a'] 1 2 (by decide +kernel)
  have rendered := mapM_eq_ok_iff.2 writes.rendered
  have spelled := substitute_eq_ok_of_findMatch? none found rendered
  have admits := (binds_of_findMatch? found).1
  refine ⟨v, m, _, compiled, found, writes, spelled, ?_, ?_⟩
  · rw [take_startOffset, drop_stopOffset (by omega) (by rw [stop]; decide +kernel), start, stop]
    decide +kernel
  · rw [start, stop]
    decide +kernel

end SoundLaw
