/-
  SoundLaw.Proofs.Variant.WellFormed

  What compiled rules are like. A rule compiles to one variant for each option, all at one position,
  and every variant is well formed: its wildcards do nothing, its steps write one literal at most or
  as many as they match, and it only writes back phonemes that one of its steps captures.
-/
import SoundLaw.Proofs.Notation.Halves
import SoundLaw.Proofs.Variant.Alignment
import SoundLaw.Proofs.Variant.Literal

namespace SoundLaw

/-! ## Steps -/

/-- A step that can be carried out, whatever it matches. -/
structure Step.WellFormed (s : Step) : Prop where
  wildcard : s.wildcard = true → s.find = [] ∧ s.replace = [] ∧ s.oldCoindex = none ∧
    s.newCoindex = none ∧ s.oldMark = [] ∧ s.newMark = []
  sizes : s.replace.length = 0 ∨ s.replace.length = 1 ∨ s.replace.length = s.find.length
  coindexed : s.oldCoindex ≠ none → s.find ≠ []
  find : ∀ literal ∈ s.find, literal.IsLiteral
  replace : ∀ literal ∈ s.replace, literal.IsLiteral

theorem Step.wildcard_between (old new : Slot) :
    (Step.between old new).wildcard = true ↔ old.symbol = .wildcard := by
  rw [Step.between]
  by_cases wild : old.symbol = .wildcard
  · simp [wild]
  · simp [wild]

theorem Step.wellFormed_between {row : List Slot} {old new : Slot} (pairs : old.PairsWith row new)
    (oldPrepared : old.symbol.IsPrepared) (newPrepared : new.symbol.IsPrepared) :
    (Step.between old new).WellFormed := by
  rw [Step.between]
  by_cases wild : old.symbol = .wildcard
  · rw [if_pos wild]
    constructor <;> simp
  · rw [if_neg wild]
    constructor
    · simp
    · show new.symbol.literals.length = 0 ∨ new.symbol.literals.length = 1 ∨
        new.symbol.literals.length = old.symbol.literals.length
      have sizes := pairs.sizes wild
      omega
    · -- A slot with a coindex stands for a phoneme, so that it has literals.
      intro coindexed
      have coindex : old.coindex ≠ none := fun none => coindexed (by simp [none])
      refine oldPrepared.literals_ne_nil wild fun deletion => ?_
      exact coindex (pairs.oldBare (Or.inr deletion))
    · exact fun literal member => oldPrepared.isLiteral member
    · exact fun literal member => newPrepared.isLiteral member

/-- What a step has of the slots that it comes from. -/
structure Step.ComesFrom (s : Step) (old new : Slot) : Prop where
  find : ∀ literal ∈ s.find, literal ∈ old.symbol.literals
  replace : ∀ literal ∈ s.replace, literal ∈ new.symbol.literals
  newMark : ∀ m ∈ s.newMark, m ∈ new.mark

theorem Step.comesFrom_between (old new : Slot) : (Step.between old new).ComesFrom old new := by
  rw [Step.between]
  by_cases wild : old.symbol = .wildcard
  · rw [if_pos wild]
    constructor <;> simp
  · rw [if_neg wild]
    exact ⟨fun _ member => member, fun _ member => member, fun _ member => member⟩

/-! ## Variants -/

/-- A variant of well-formed steps, each of which writes a coindex only if one of them captures
    it. -/
structure Variant.WellFormed (v : Variant) : Prop where
  steps : ∀ s ∈ v.steps, s.WellFormed
  captured : ∀ s ∈ v.steps, ∀ n, s.newCoindex = some n →
    ∃ t ∈ v.steps, t.oldCoindex = some n ∧ t.find ≠ []

/-- A variant has one step for each pair of slots, and the step is a wildcard if both slots are. -/
structure Variant.Realizes (v : Variant) (old new : Form) : Prop where
  lengths : old.slots.length = new.slots.length
  wildcards : List.Forall₂
    (fun pair s => s.wildcard = true ↔ pair.1.symbol = .wildcard ∧ pair.2.symbol = .wildcard)
    (old.slots.zip new.slots) v.steps

/-- Where forms align, every coindex of the old form belongs to a step that matches a phoneme. -/
theorem exists_captured_between {old new : Form} (aligned : old.AlignsWith new)
    (prepared : ∀ s ∈ old.slots, s.symbol.IsPrepared) {slot : Slot} (member : slot ∈ old.slots)
    {n : Nat} (coindex : slot.coindex = some n) :
    ∃ t ∈ stepsBetween old new, t.oldCoindex = some (Int.ofNat n) ∧ t.find ≠ [] := by
  have first : slot ∈ (old.slots.zip new.slots).map Prod.fst := by
    rw [List.map_fst_zip (Nat.le_of_eq aligned.lengths)]
    exact member
  obtain ⟨pair, inZip, rfl⟩ := List.mem_map.1 first
  have pairs := aligned.pairs pair inZip
  have wild : pair.1.symbol ≠ .wildcard := by
    intro wild
    exact absurd (pairs.oldBare (Or.inl wild)) (by simp [coindex])
  have deletion : pair.1.symbol ≠ .deletion := by
    intro deletion
    exact absurd (pairs.oldBare (Or.inr deletion)) (by simp [coindex])
  refine ⟨Step.between pair.1 pair.2, List.mem_map_of_mem inZip, ?_, ?_⟩
  · rw [Step.between, if_neg wild, coindex]
    rfl
  · rw [Step.between, if_neg wild]
    exact (prepared pair.1 member).literals_ne_nil wild deletion

theorem wellFormed_stepsBetween {old new : Form} (aligned : old.AlignsWith new)
    (oldPrepared : ∀ s ∈ old.slots, s.symbol.IsPrepared)
    (newPrepared : ∀ s ∈ new.slots, s.symbol.IsPrepared) (position : Position) :
    Variant.WellFormed { steps := stepsBetween old new, position } := by
  constructor
  · intro s hs
    obtain ⟨pair, inZip, rfl⟩ := List.mem_map.1 hs
    obtain ⟨inOld, inNew⟩ := List.of_mem_zip inZip
    exact Step.wellFormed_between (aligned.pairs pair inZip) (oldPrepared _ inOld)
      (newPrepared _ inNew)
  · -- The coindex that is written is declared by a slot of the old form.
    intro s hs n written
    obtain ⟨pair, inZip, rfl⟩ := List.mem_map.1 hs
    rw [Step.between] at written
    split at written
    · exact absurd written (by simp)
    · next wild =>
      obtain ⟨k, coindex, rfl⟩ := Option.map_eq_some_iff.1 written
      obtain ⟨slot, member, declared⟩ := (aligned.pairs pair inZip).declared wild k coindex
      exact exists_captured_between aligned oldPrepared member declared

theorem realizes_stepsBetween {old new : Form} (aligned : old.AlignsWith new)
    (position : Position) :
    Variant.Realizes { steps := stepsBetween old new, position } old new := by
  refine ⟨aligned.lengths, ?_⟩
  show List.Forall₂ _ _ (stepsBetween old new)
  rw [stepsBetween, List.forall₂_map_right_iff, List.forall₂_same]
  intro pair inZip
  have wildcards := (aligned.pairs pair inZip).wildcards
  rw [Step.wildcard_between]
  exact ⟨fun wild => ⟨wild, wildcards.1 wild⟩, fun both => both.1⟩

/-! ## Rules -/

/-- The variant of two segments, if they give one. -/
theorem realizes_of_ofSegments {position : Position} {old new : Text} {v : Variant}
    (h : Variant.ofSegments position old new = .ok v) :
    v.position = position ∧ v.WellFormed ∧
      ∃ oldForm newForm, Form.parse old = .ok oldForm ∧ Form.parse new = .ok newForm ∧
        v.Realizes oldForm newForm := by
  obtain ⟨oldForm, oldParsed, h⟩ := bind_eq_ok_iff.1 h
  obtain ⟨newForm, newParsed, h⟩ := bind_eq_ok_iff.1 h
  rcases ofForms_cases position oldForm newForm with ⟨made, aligned⟩ | ⟨⟨fault, refused⟩, _⟩
  · obtain rfl := Except.ok.inj (made.symm.trans h)
    refine ⟨rfl, ?_, oldForm, newForm, oldParsed, newParsed, ?_⟩
    · exact wellFormed_stepsBetween aligned (isPrepared_of_parse oldParsed)
        (isPrepared_of_parse newParsed) position
    · exact realizes_stepsBetween aligned position
  · exact absurd (refused.symm.trans h) (by simp)

/-- The variants of a rule: one for each option of either half, well formed and at the position that
    the old half gives. -/
structure CompiledFrom (oldHalf newHalf : Text) (variants : List Variant) : Prop where
  oldOptions : variants.length = oldHalf.count '|' + 1
  newOptions : variants.length = newHalf.count '|' + 1
  each : List.Forall₂
    (fun segments v => v.position = Position.ofHalf oldHalf ∧ v.WellFormed ∧
      ∃ old new, Form.parse segments.1 = .ok old ∧ Form.parse segments.2 = .ok new ∧
        v.Realizes old new)
    (oldHalf.options.zip newHalf.options) variants

theorem CompiledFrom.wellFormed {oldHalf newHalf : Text} {variants : List Variant}
    (h : CompiledFrom oldHalf newHalf variants) : ∀ v ∈ variants, v.WellFormed := by
  intro v hv
  obtain ⟨_, _, _, wellFormed, _⟩ := exists_of_forall₂ h.each.flip hv
  exact wellFormed

theorem compiledFrom_of_compile {notated : Text} {variants : List Variant}
    (h : compile notated = .ok variants) :
    ∃ oldHalf newHalf, splitHalves notated = .ok (oldHalf, newHalf) ∧
      CompiledFrom oldHalf newHalf variants := by
  obtain ⟨⟨oldHalf, newHalf⟩, halves, h⟩ := bind_eq_ok_iff.1 h
  obtain ⟨⟨old, new⟩, options, h⟩ := bind_eq_ok_iff.1 h
  obtain ⟨⟨oldHalf', newHalf'⟩, halves', options⟩ := bind_eq_ok_iff.1 options
  -- The options are those of the halves that give the position.
  obtain ⟨rfl, rfl⟩ := Prod.mk.inj (Except.ok.inj (halves.symm.trans halves'))
  dsimp only at options
  split at options
  · exact absurd options (by simp)
  · next lengths =>
    obtain ⟨rfl, rfl⟩ := Prod.mk.inj (Except.ok.inj options)
    have each := mapM_eq_ok_iff.1 h
    have count : variants.length = oldHalf.options.length := by
      rw [← each.length_eq, List.length_zip]
      omega
    refine ⟨oldHalf, newHalf, halves, ?_, ?_, ?_⟩
    · rw [count, Text.length_options]
    · rw [count, ← Text.length_options]
      omega
    · exact each.imp fun _ _ made => realizes_of_ofSegments made

theorem wellFormed_of_compile {notated : Text} {variants : List Variant}
    (h : compile notated = .ok variants) : ∀ v ∈ variants, v.WellFormed := by
  obtain ⟨_, _, _, compiled⟩ := compiledFrom_of_compile h
  exact compiled.wellFormed

/-- A step of a compiled rule comes from a slot of each half. -/
theorem exists_slots_of_compile {notated : Text} {variants : List Variant}
    (compiled : compile notated = .ok variants) {v : Variant} (hv : v ∈ variants) {s : Step}
    (hs : s ∈ v.steps) :
    ∃ oldSegment newSegment oldForm newForm, Form.parse oldSegment = .ok oldForm ∧
      Form.parse newSegment = .ok newForm ∧
      ∃ old ∈ oldForm.slots, ∃ new ∈ newForm.slots, s.ComesFrom old new := by
  obtain ⟨halves, _, compiled⟩ := bind_eq_ok_iff.1 compiled
  obtain ⟨options, _, compiled⟩ := bind_eq_ok_iff.1 compiled
  obtain ⟨segments, _, made⟩ := exists_of_forall₂ (mapM_eq_ok_iff.1 compiled).flip hv
  obtain ⟨oldForm, oldParsed, made⟩ := bind_eq_ok_iff.1 made
  obtain ⟨newForm, newParsed, made⟩ := bind_eq_ok_iff.1 made
  rcases ofForms_cases (Position.ofHalf halves.1) oldForm newForm with
    ⟨aligned, _⟩ | ⟨⟨fault, refused⟩, _⟩
  · obtain rfl := Except.ok.inj (aligned.symm.trans made)
    obtain ⟨pair, inZip, rfl⟩ := List.mem_map.1 hs
    obtain ⟨inOld, inNew⟩ := List.of_mem_zip inZip
    exact ⟨_, _, _, _, oldParsed, newParsed, _, inOld, _, inNew, Step.comesFrom_between _ _⟩
  · exact absurd (refused.symm.trans made) (by simp)

/-- Forms make a variant exactly if they align, and are a fault of the notation otherwise; and a
    rule that compiles has one well-formed variant for each option, all at one position. -/
theorem aligns_iff_and_realizes :
    (∀ position old new,
      ((∃ v, Variant.ofForms position old new = .ok v) ↔ old.AlignsWith new) ∧
        (¬old.AlignsWith new → IsFault (Variant.ofForms position old new))) ∧
    ∀ notated variants, compile notated = .ok variants →
      ∃ oldHalf newHalf, splitHalves notated = .ok (oldHalf, newHalf) ∧
        CompiledFrom oldHalf newHalf variants := by
  refine ⟨fun position old new => ?_, fun _ _ => compiledFrom_of_compile⟩
  rcases ofForms_cases position old new with ⟨made, aligned⟩ | ⟨refused, unaligned⟩
  · exact ⟨⟨fun _ => aligned, fun _ => ⟨_, made⟩⟩, fun unaligned => absurd aligned unaligned⟩
  · refine ⟨⟨fun ⟨v, made⟩ => ?_, fun aligned => absurd aligned unaligned⟩, fun _ => refused⟩
    obtain ⟨fault, refused⟩ := refused
    exact absurd (made.symm.trans refused) (by simp)

-- Two options at the start of a word: a group that is voiced before a vowel, and a digraph.
theorem wellFormed_of_voicing :
    ∃ variants, compile ['[', '{', 'p', 't', '}', 'V', '₁', '-', '|', 'k', 'w', '-', ']', '>',
        '[', '{', 'b', 'd', '}', 'V', '₁', '-', '|', 'p', '-', ']'] = .ok variants ∧
      variants.length = 2 ∧ ∀ v ∈ variants, v.WellFormed := by
  have compiles : (compile ['[', '{', 'p', 't', '}', 'V', '₁', '-', '|', 'k', 'w', '-', ']', '>',
      '[', '{', 'b', 'd', '}', 'V', '₁', '-', '|', 'p', '-', ']']).toOption.map List.length =
      some 2 := by decide +kernel
  obtain ⟨variants, compiled, length⟩ := Option.map_eq_some_iff.1 compiles
  have compiled := eq_ok_of_toOption_eq_some compiled
  obtain ⟨_, _, _, fromHalves⟩ := aligns_iff_and_realizes.2 _ variants compiled
  exact ⟨variants, compiled, length, fromHalves.wellFormed⟩

end SoundLaw
