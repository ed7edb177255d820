/-
  SoundLaw.Proofs.Substitution.Total

  A compiled rule can be applied to every word. What the parts of a substitution look up is there:
  the phonemes at both ends of the match, the literal that each step matches and the one that it
  writes, the key of every coindex that is written (`Match.IsComplete`), and the stand-in of every
  digraph that is read.
-/
import SoundLaw.Proofs.Match.Leftmost
import SoundLaw.Proofs.Spelling.Rendering
import SoundLaw.Proofs.Variant.WellFormed
import SoundLaw.Substitution

namespace SoundLaw

/-- What a match has for the steps that are bound in it. -/
structure Match.IsComplete (m : Match) (ps : List Phoneme) : Prop where
  ordered : m.start ≤ m.stop
  inside : m.stop ≤ ps.length
  found : ∀ b ∈ m.bindings, b.phoneme ≠ none → b.choice < b.step.find.length
  replaced : ∀ b ∈ m.bindings, 1 < b.step.replace.length → b.choice < b.step.replace.length
  captured : ∀ b ∈ m.bindings, ∀ n, b.step.newCoindex = some n →
    ∃ p ∈ ps, m.captures.lookup n = some p.key

/-! ## Matches of well-formed variants -/

theorem Step.WellFormed.consumes {s : Step} (h : s.WellFormed) (find : s.find ≠ []) :
    s.consumes = true := by
  rw [Step.consumes, Bool.and_eq_true, Bool.not_eq_true', Bool.not_eq_true',
    List.isEmpty_eq_false_iff]
  refine ⟨?_, find⟩
  rw [← Bool.not_eq_true]
  exact fun wildcard => find (h.wildcard wildcard).1

theorem Step.Prefers.lt_length {s : Step} {p : Phoneme} {i : Nat} (h : s.Prefers p i) :
    i < s.find.length := by
  obtain ⟨literal, listed, _⟩ := h
  exact (List.getElem?_eq_some_iff.1 listed).1

/-- A step that consumes has been paired with a phoneme, and its coindex is captured. -/
theorem Match.Binds.exists_captured {m : Match} {v : Variant} {ps : List Phoneme}
    (binds : m.Binds v ps) (room : m.start + v.consuming.length ≤ ps.length) {s : Step}
    (member : s ∈ v.consuming) {n : Int} (coindex : s.oldCoindex = some n) :
    ∃ p ∈ ps, m.captures.lookup n = some p.key := by
  have first : s ∈ (v.consuming.zip (ps.drop m.start)).map Prod.fst := by
    rw [List.map_fst_zip]
    · exact member
    · rw [List.length_drop]
      omega
  obtain ⟨pair, inZip, rfl⟩ := List.mem_map.1 first
  have inWord := List.mem_of_mem_drop (List.of_mem_zip inZip).2
  exact ⟨pair.2, inWord, (binds.captured n pair.2.key).2 ⟨pair, inZip, coindex, rfl⟩⟩

/-- The matches of a well-formed variant are complete. -/
theorem isComplete_of_findMatch? {v : Variant} (wellFormed : v.WellFormed) {ps : List Phoneme}
    {m : Match} (h : v.findMatch? ps = some m) : m.IsComplete ps := by
  obtain ⟨admits, _, binds⟩ := binds_of_findMatch? h
  have room := admits.room
  have stop := binds.stop
  have inRow : ∀ b ∈ m.bindings, b.step ∈ v.steps := by
    intro b hb
    rw [← binds.row]
    exact List.mem_map_of_mem hb
  have found : ∀ b ∈ m.bindings, b.phoneme ≠ none → b.choice < b.step.find.length := by
    intro b hb bound
    obtain ⟨p, bound⟩ := Option.ne_none_iff_exists'.1 bound
    exact (binds.chosen b hb p bound).lt_length
  refine ⟨by omega, by omega, found, ?_, ?_⟩
  · intro b hb several
    -- A step with several literals to write has as many to find, so that it is bound to a phoneme.
    have step := wellFormed.steps b.step (inRow b hb)
    have sizes : b.step.replace.length = b.step.find.length := by
      have sizes := step.sizes
      omega
    have consumes : b.step.consumes = true :=
      step.consumes (List.length_pos_iff.1 (by omega))
    rw [sizes]
    refine found b hb fun unbound => ?_
    have bound := binds.consumes b hb
    rw [unbound, consumes] at bound
    exact absurd bound (by simp)
  · -- The step that captures the coindex consumes, whether it comes before or after this one.
    intro b hb n written
    obtain ⟨s, inSteps, coindex, find⟩ := wellFormed.captured b.step (inRow b hb) n written
    have consumes := (wellFormed.steps s inSteps).consumes find
    exact binds.exists_captured room (List.mem_filter.2 ⟨inSteps, consumes⟩) coindex

/-! ## Replacements -/

/-- The literal that a bound step of a complete match writes is there, and can be rendered. -/
theorem Match.IsComplete.exists_literal {m : Match} {word : Text}
    (complete : m.IsComplete (phonemes DigraphTable.rules word)) {b : Binding}
    (member : b ∈ m.bindings) (wellFormed : b.step.WellFormed) :
    ∃ written, b.literal m.captures = .ok written ∧
      ∀ literal, written = some literal → literal.base.IsRenderable := by
  have renderable : ∀ literal ∈ b.step.replace, literal.base.IsRenderable :=
    fun literal hl => Or.inr (wellFormed.replace literal hl).short.base
  rw [Binding.literal]
  cases coindex : b.step.newCoindex with
  | some n =>
    -- What is written back is the key of a phoneme.
    obtain ⟨p, inWord, held⟩ := complete.captured b member n coindex
    refine ⟨some p.key, by simp [held], fun literal same => ?_⟩
    rw [← Option.some.inj same]
    exact isRenderable_base_key inWord
  | none =>
    have replaced := complete.replaced b member
    cases replace : b.step.replace with
    | nil => exact ⟨none, rfl, by simp⟩
    | cons first others =>
      rw [replace] at renderable replaced
      cases others with
      | nil =>
        refine ⟨some first, rfl, fun literal same => ?_⟩
        rw [← Option.some.inj same]
        exact renderable first List.mem_cons_self
      | cons second others =>
        have inside := replaced (by simp)
        refine ⟨some (first :: second :: others)[b.choice], ?_, fun literal same => ?_⟩
        · simp only [List.getElem?_eq_getElem inside]
        · rw [← Option.some.inj same]
          exact renderable _ (List.getElem_mem inside)

theorem Binding.exists_letters_eq_ok (b : Binding) (convention : Convention) {literal : Text}
    (h : literal.base.IsRenderable) : ∃ letters, b.letters convention literal = .ok letters := by
  rw [Binding.letters]
  split
  · next p _ => exact ⟨p.text.base, rfl⟩
  · exact convention.exists_render_eq_ok h

theorem Match.IsComplete.exists_render {m : Match} {word : Text}
    (complete : m.IsComplete (phonemes DigraphTable.rules word)) {b : Binding}
    (member : b ∈ m.bindings) (wellFormed : b.step.WellFormed) (convention : Convention) :
    ∃ written, b.render m.captures convention = .ok written := by
  obtain ⟨literal?, found, renderable⟩ := complete.exists_literal member wellFormed
  rw [Binding.render, found]
  cases literal? with
  | none => exact ⟨[], rfl⟩
  | some literal =>
    obtain ⟨letters, rendered⟩ := b.exists_letters_eq_ok convention (renderable literal rfl)
    simp only [bind, Except.bind, rendered]
    exact ⟨_, rfl⟩

/-! ## Words -/

theorem exists_substitute_eq_ok {v : Variant} (wellFormed : v.WellFormed) (word : Text)
    (convention : Option Convention) : ∃ result, v.substitute word convention = .ok result := by
  rw [Variant.substitute]
  cases found : v.findMatch? (phonemes DigraphTable.rules word.nfc) with
  | none => exact ⟨none, rfl⟩
  | some m =>
    have complete := isComplete_of_findMatch? wellFormed found
    have binds := (binds_of_findMatch? found).2.2
    have each : ∀ b ∈ m.bindings, ∃ written,
        b.render m.captures (convention.getD (Convention.detect word.nfc)) = .ok written := by
      intro b hb
      refine complete.exists_render hb (wellFormed.steps b.step ?_) _
      rw [← binds.row]
      exact List.mem_map_of_mem hb
    obtain ⟨written, rendered⟩ := exists_mapM_eq_ok each
    simp only [bind, Except.bind, rendered]
    exact ⟨_, rfl⟩

/-- Applying a variant of a compiled rule never fails, and none of its look-ups misses. -/
theorem substitute_total {notated : Text} {variants : List Variant}
    (compiled : compile notated = .ok variants) {v : Variant} (member : v ∈ variants) (word : Text)
    (convention : Option Convention) :
    (∃ result, v.substitute word convention = .ok result) ∧
      phonemes? DigraphTable.rules word.nfc = .ok (phonemes DigraphTable.rules word.nfc) ∧
      (∀ t : Text, t.fold? DigraphTable.rules = .ok (t.fold DigraphTable.rules)) ∧
      ∀ m, v.findMatch? (phonemes DigraphTable.rules word.nfc) = some m →
        m.IsComplete (phonemes DigraphTable.rules word.nfc) := by
  have wellFormed := wellFormed_of_compile compiled v member
  refine ⟨exists_substitute_eq_ok wellFormed word convention, ?_, fun t => ?_, fun m found => ?_⟩
  · exact phonemes?_eq_ok DigraphTable.isPlain_rules word.nfc
  · exact Text.fold?_eq_ok (DigraphTable.lists_of_isPlain DigraphTable.isPlain_rules t)
  · exact isComplete_of_findMatch? wellFormed found

-- A vowel is doubled: the step that inserts it writes what the other one captures.
theorem substitute_total_of_doubling :
    ∃ v, compile ['ø', 'V', '₁', '>', 'a', '₁', 'V', '₁'] = .ok [v] ∧
      ∃ result, v.substitute ['p', 'ó', 's', 's', 'i'] (some .single) = .ok result := by
  have compiles : (compile ['ø', 'V', '₁', '>', 'a', '₁', 'V', '₁']).toOption.map List.length =
      some 1 := by decide +kernel
  obtain ⟨variants, compiled, length⟩ := Option.map_eq_some_iff.1 compiles
  obtain ⟨v, rfl⟩ := List.length_eq_one_iff.1 length
  have compiled := eq_ok_of_toOption_eq_some compiled
  exact ⟨v, compiled, (substitute_total compiled List.mem_cons_self _ _).1⟩

end SoundLaw
