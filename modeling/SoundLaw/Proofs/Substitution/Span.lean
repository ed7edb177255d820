/-
  SoundLaw.Proofs.Substitution.Span

  A substitution replaces the span of phonemes that is matched, and nothing else. The offsets of a
  match are the lengths of the text before it and of the text up to its end
  (`startOffset_eq_length`, `stopOffset_eq_length`), also where the match is empty or at the end of
  the word; between them comes one text for each step, and the whole is composed again.
-/
import SoundLaw.Proofs.Phoneme.Cut
import SoundLaw.Proofs.Substitution.Total

namespace SoundLaw

/-! ## The span of a match -/

/-- A compiled rule matches as many phonemes as it has steps with literals to find. -/
theorem Variant.WellFormed.length_consuming {v : Variant} (h : v.WellFormed) :
    v.consuming.length = v.width := by
  rw [Variant.consuming, Variant.width, ← List.countP_eq_length_filter]
  refine List.countP_congr fun s hs => ?_
  refine ⟨fun consumes => (Bool.and_eq_true_iff.1 consumes).2, fun find => ?_⟩
  exact (h.steps s hs).consumes (by simpa using find)

/-- Matches of the same phonemes are at the same place of the word. -/
theorem Match.offsets_congr {m m' : Match} (start : m'.start = m.start) (stop : m'.stop = m.stop)
    (ps : List Phoneme) (word : Text) :
    m'.startOffset ps word = m.startOffset ps word ∧
      m'.stopOffset ps word = m.stopOffset ps word := by
  simp only [Match.startOffset, Match.stopOffset, start, stop, and_self]

section

variable {table : DigraphTable} {word : Text} {m : Match}

theorem startOffset_eq_length :
    m.startOffset (phonemes table word) word =
      (((phonemes table word).take m.start).flatMap Phoneme.text).length := by
  rw [Match.startOffset]
  cases first : (phonemes table word)[m.start]? with
  | some p =>
    have offset := (offsets_of_getElem?_phonemesFrom first).1
    rwa [Nat.zero_add] at offset
  | none =>
    -- The match starts where the word ends.
    have ended : (phonemes table word).length ≤ m.start := List.getElem?_eq_none_iff.1 first
    rw [List.take_of_length_le ended, flatMap_text_phonemes]

theorem stopOffset_eq_length (ordered : m.start ≤ m.stop)
    (inside : m.stop ≤ (phonemes table word).length) :
    m.stopOffset (phonemes table word) word =
      (((phonemes table word).take m.stop).flatMap Phoneme.text).length := by
  rw [Match.stopOffset]
  by_cases filled : m.start < m.stop
  · have last : m.stop - 1 < (phonemes table word).length := by omega
    have next : m.stop - 1 + 1 = m.stop := by omega
    have offset := (offsets_of_getElem?_phonemesFrom (List.getElem?_eq_getElem last)).2
    rw [if_pos filled, List.getElem?_eq_getElem last]
    rwa [Nat.zero_add, next] at offset
  · have empty : m.stop = m.start := by omega
    rw [if_neg filled, startOffset_eq_length, empty]

/-- What stands before a match is the text of the phonemes before it. -/
theorem take_startOffset :
    word.take (m.startOffset (phonemes table word) word) =
      ((phonemes table word).take m.start).flatMap Phoneme.text := by
  rw [startOffset_eq_length, take_length_of_append (cut_phonemes table word m.start)]

/-- What stands after a match is the text of the phonemes after it. -/
theorem drop_stopOffset (ordered : m.start ≤ m.stop)
    (inside : m.stop ≤ (phonemes table word).length) :
    word.drop (m.stopOffset (phonemes table word) word) =
      ((phonemes table word).drop m.stop).flatMap Phoneme.text := by
  rw [stopOffset_eq_length ordered inside, drop_length_of_append (cut_phonemes table word m.stop)]

end

/-! ## What is written -/

/-- Whether a step writes nothing: a wildcard, or the deletion of a phoneme. -/
def Step.IsSilent (s : Step) : Prop := s.wildcard = true ∨ s.replace = [] ∧ s.newCoindex = none

/-- What the steps of a variant write for a match: one text for each, in their order. -/
structure Variant.Writes (v : Variant) (m : Match) (convention : Convention)
    (written : List Text) : Prop where
  rendered : List.Forall₂ (fun b t => b.render m.captures convention = .ok t) m.bindings written
  bound : m.bindings.map Binding.step = v.steps
  silent : ∀ (i : Nat) (s : Step), v.steps[i]? = some s → s.IsSilent → written[i]? = some []

theorem render_of_isSilent {b : Binding} (wellFormed : b.step.WellFormed) (silent : b.step.IsSilent)
    (captures : Captures) (convention : Convention) : b.render captures convention = .ok [] := by
  have nothing : b.step.replace = [] ∧ b.step.newCoindex = none := by
    rcases silent with wildcard | deletion
    · obtain ⟨_, replace, _, coindex, _⟩ := wellFormed.wildcard wildcard
      exact ⟨replace, coindex⟩
    · exact deletion
  have literal : b.literal captures = .ok none := by
    rw [Binding.literal, nothing.2, nothing.1]
  rw [Binding.render, literal]
  rfl

/-- Every match of a well-formed variant can be written. -/
theorem exists_writes {v : Variant} (wellFormed : v.WellFormed) {word : Text} {m : Match}
    (found : v.findMatch? (phonemes DigraphTable.rules word) = some m) (convention : Convention) :
    ∃ written, m.bindings.mapM (fun b => b.render m.captures convention) = .ok written ∧
      v.Writes m convention written := by
  have complete := isComplete_of_findMatch? wellFormed found
  have row := (binds_of_findMatch? found).2.2.row
  have steps : ∀ b ∈ m.bindings, b.step.WellFormed := by
    intro b hb
    apply wellFormed.steps
    rw [← row]
    exact List.mem_map_of_mem hb
  obtain ⟨written, rendered⟩ :=
    exists_mapM_eq_ok fun b hb => complete.exists_render hb (steps b hb) convention
  have each := mapM_eq_ok_iff.1 rendered
  refine ⟨written, rendered, each, row, fun i s listed silent => ?_⟩
  rw [← row, List.getElem?_map, Option.map_eq_some_iff] at listed
  obtain ⟨b, bound, rfl⟩ := listed
  obtain ⟨inside, rfl⟩ := List.getElem?_eq_some_iff.1 bound
  have room : i < written.length := each.length_eq ▸ inside
  have here := each.get inside room
  have nothing := render_of_isSilent (steps _ (List.getElem_mem inside)) silent m.captures convention
  rw [List.get_eq_getElem, nothing, List.get_eq_getElem, Except.ok.injEq] at here
  rw [List.getElem?_eq_getElem room, ← here]

/-! ## Words -/

theorem substitute_eq_ok_of_findMatch? {v : Variant} {word : Text} {m : Match}
    (convention : Option Convention) {written : List Text}
    (found : v.findMatch? (phonemes DigraphTable.rules word.nfc) = some m)
    (rendered : m.bindings.mapM (fun b =>
      b.render m.captures (convention.getD (Convention.detect word.nfc))) = .ok written) :
    v.substitute word convention = .ok (some (Text.nfc (
      word.nfc.take (m.startOffset (phonemes DigraphTable.rules word.nfc) word.nfc) ++
        written.flatten ++
        word.nfc.drop (m.stopOffset (phonemes DigraphTable.rules word.nfc) word.nfc)))) := by
  rw [Variant.substitute]
  simp only [found, rendered, bind, Except.bind]
  rfl

/-- A substitution that is made keeps the phonemes before the match and those after it, as they are
    spelled. A word without a match stays as it is. -/
theorem substitute_keeps_surroundings {notated : Text} {variants : List Variant}
    (compiled : compile notated = .ok variants) {v : Variant} (member : v ∈ variants) (word : Text)
    (convention : Option Convention) :
    (∀ m, v.findMatch? (phonemes DigraphTable.rules word.nfc) = some m →
      m.stop = m.start + v.width ∧ m.stop ≤ (phonemes DigraphTable.rules word.nfc).length ∧
      ∃ written, v.Writes m (convention.getD (Convention.detect word.nfc)) written ∧
        v.substitute word convention = .ok (some (Text.nfc (
          ((phonemes DigraphTable.rules word.nfc).take m.start).flatMap Phoneme.text ++
            written.flatten ++
            ((phonemes DigraphTable.rules word.nfc).drop m.stop).flatMap Phoneme.text)))) ∧
      (v.findMatch? (phonemes DigraphTable.rules word.nfc) = none →
        v.substitute word convention = .ok none ∧ v.apply word convention = .ok word) := by
  have wellFormed := wellFormed_of_compile compiled v member
  constructor
  · intro m found
    obtain ⟨admits, _, binds⟩ := binds_of_findMatch? found
    have stop := binds.stop
    have room := admits.room
    obtain ⟨written, rendered, writes⟩ :=
      exists_writes wellFormed found (convention.getD (Convention.detect word.nfc))
    refine ⟨?_, by omega, written, writes, ?_⟩
    · rw [stop, wellFormed.length_consuming]
    · rw [substitute_eq_ok_of_findMatch? convention found rendered, take_startOffset,
        drop_stopOffset (by omega) (by omega)]
  · intro none
    have nothing : v.substitute word convention = .ok Option.none := by
      rw [Variant.substitute]
      simp only [none]
      rfl
    refine ⟨nothing, ?_⟩
    rw [Variant.apply, nothing]
    rfl

-- A vowel is put inside the word, so the match lies between two phonemes and has no width.
theorem substitute_keeps_surroundings_of_insertion :
    ∃ v m, compile ['-', 'ø', '-', '>', '-', 'a', '-'] = .ok [v] ∧
      v.findMatch? (phonemes DigraphTable.rules (Text.nfc ['p', 't'])) = some m ∧
      m.start = 1 ∧ m.stop = m.start + v.width ∧
      ∃ written, v.Writes m .single written ∧
        v.substitute ['p', 't'] (some .single) = .ok (some (Text.nfc (
          ((phonemes DigraphTable.rules (Text.nfc ['p', 't'])).take m.start).flatMap Phoneme.text ++
            written.flatten ++
            ((phonemes DigraphTable.rules (Text.nfc ['p', 't'])).drop m.stop).flatMap
              Phoneme.text))) := by
  have starts : (compile ['-', 'ø', '-', '>', '-', 'a', '-']).toOption.map (·.map fun v =>
      (v.findMatch? (phonemes DigraphTable.rules (Text.nfc ['p', 't']))).map Match.start) =
      some [some 1] := by decide +kernel
  obtain ⟨variants, compiled, each⟩ := Option.map_eq_some_iff.1 starts
  obtain ⟨v, rfl, found⟩ := List.map_eq_singleton_iff.1 each
  obtain ⟨m, found, start⟩ := Option.map_eq_some_iff.1 found
  have compiled := eq_ok_of_toOption_eq_some compiled
  have spelled :=
    (substitute_keeps_surroundings compiled List.mem_cons_self ['p', 't'] (some .single)).1 m found
  exact ⟨v, m, compiled, found, start, spelled.1, spelled.2.2⟩

end SoundLaw
