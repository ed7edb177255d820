/-
  SoundLaw.Proofs.Substitution.Reordered

  The order in which a step lists its alternatives. Where these stand for different phonemes, a
  phoneme fits one of them at most, so the order cannot matter to the choice
  (`choose?_eq_some_iff_of_distinct`); and what is written for the chosen one moves along with it.
  So a variant makes the same of every word when the alternatives of a step change places
  (`substitute_reordered`).
-/
import Mathlib.Data.List.FinRange
import SoundLaw.Proofs.Match.Simulation
import SoundLaw.Proofs.Substitution.Span

namespace SoundLaw

/-- A step with its alternatives in another order. What it writes for each goes along with it; a
    literal that is written for all of them stays. -/
def Step.reordered (s : Step) (order : Equiv.Perm (Fin s.find.length)) : Step :=
  { s with
    find := List.ofFn fun i => s.find.get (order i)
    replace :=
      if sizes : s.find.length = s.replace.length then
        List.ofFn fun i => s.replace.get ((order i).cast sizes)
      else s.replace }

/-! ## The choice of an alternative -/

/-- Of literals with different keys, a step chooses the one that the phoneme fits. -/
theorem choose?_eq_some_iff_of_distinct {s : Step} (distinct : (s.find.map Text.literalKey).Nodup)
    {p : Phoneme} {i : Nat} :
    s.choose? p = some i ↔ ∃ literal, s.find[i]? = some literal ∧ p.Fits literal := by
  constructor
  · intro chosen
    obtain ⟨literal, here, fits, _⟩ := Step.prefers_of_choose? chosen
    exact ⟨literal, here, fits⟩
  · rintro ⟨literal, here, fits⟩
    cases chosen : s.choose? p with
    | none =>
      exact absurd fits (Step.choose?_eq_none_iff.1 chosen literal (List.mem_of_getElem? here))
    | some k =>
      obtain ⟨other, there, fits', _⟩ := Step.prefers_of_choose? chosen
      have keys : (s.find.map Text.literalKey)[k]? = (s.find.map Text.literalKey)[i]? := by
        rw [List.getElem?_map, List.getElem?_map, here, there, Option.map_some, Option.map_some,
          fits.1, fits'.1]
      have inside : k < (s.find.map Text.literalKey).length := by
        rw [List.length_map]
        exact (List.getElem?_eq_some_iff.1 there).1
      rw [(List.getElem?_inj inside distinct).1 keys]

section Reordered

variable {s : Step} (order : Equiv.Perm (Fin s.find.length))

theorem find_reordered_perm : (s.reordered order).find.Perm s.find := by
  have moved : (List.ofFn (s.find.get ∘ order)).Perm (List.ofFn s.find.get) :=
    order.ofFn_comp_perm s.find.get
  rwa [List.ofFn_get] at moved

theorem getElem?_find_reordered (j : Fin s.find.length) :
    (s.reordered order).find[j.val]? = s.find[(order j).val]? := by
  simp [Step.reordered]

theorem replace_reordered_of_ne (sizes : s.find.length ≠ s.replace.length) :
    (s.reordered order).replace = s.replace := dif_neg sizes

theorem length_replace_reordered : (s.reordered order).replace.length = s.replace.length := by
  by_cases sizes : s.find.length = s.replace.length
  · rw [Step.reordered, dif_pos sizes, List.length_ofFn, sizes]
  · rw [replace_reordered_of_ne order sizes]

theorem getElem?_replace_reordered (sizes : s.find.length = s.replace.length)
    (j : Fin s.find.length) :
    (s.reordered order).replace[j.val]? = s.replace[(order j).val]? := by
  have here : j.val < s.replace.length := sizes ▸ j.isLt
  have there : (order j).val < s.replace.length := sizes ▸ (order j).isLt
  simp [Step.reordered, sizes, here, there]

theorem consumes_reordered : (s.reordered order).consumes = s.consumes := by
  rw [Step.consumes, Step.consumes, (find_reordered_perm order).isEmpty_eq]
  rfl

/-- A phoneme that fits an alternative fits it in its other place too, and no other one. -/
theorem choose?_reordered (distinct : (s.find.map Text.literalKey).Nodup) (p : Phoneme) :
    Option.Rel (fun i j => ∃ place, i = (order place).val ∧ j = place.val) (s.choose? p)
      ((s.reordered order).choose? p) := by
  have keys : ((s.reordered order).find.map Text.literalKey).Nodup :=
    ((find_reordered_perm order).map Text.literalKey).nodup_iff.2 distinct
  cases chosen : s.choose? p with
  | none =>
    have nothing : (s.reordered order).choose? p = none := by
      rw [Step.choose?_eq_none_iff] at chosen ⊢
      exact fun literal member => chosen literal ((find_reordered_perm order).mem_iff.1 member)
    rw [nothing]
    exact .none
  | some i =>
    obtain ⟨literal, here, fits⟩ := (choose?_eq_some_iff_of_distinct distinct).1 chosen
    obtain ⟨place, rfl⟩ : ∃ place, (order place).val = i :=
      ⟨order.symm ⟨i, (List.getElem?_eq_some_iff.1 here).1⟩, by rw [order.apply_symm_apply]⟩
    have moved : (s.reordered order).choose? p = some place.val :=
      (choose?_eq_some_iff_of_distinct keys).2
        ⟨literal, (getElem?_find_reordered order place).trans here, fits⟩
    rw [moved]
    exact .some ⟨place, rfl, rfl⟩

end Reordered

/-! ## Matches side by side -/

section

variable (s : Step) (order : Equiv.Perm (Fin s.find.length))

/-- Steps that stand opposite each other when the alternatives of one step change places. -/
def Step.Opposite (a b : Step) : Prop := a = b ∨ a = s ∧ b = s.reordered order

/-- What they are bound to: the same phoneme, by the same alternative. -/
def Binding.Opposite (b c : Binding) : Prop :=
  b = c ∨ ∃ p place, b = ⟨s, some p, (order place).val⟩ ∧ c = ⟨s.reordered order, some p, place.val⟩

variable {s}

theorem simulation_reordered (consumes : s.consumes = true)
    (distinct : (s.find.map Text.literalKey).Nodup) :
    Simulation (Step.Opposite s order) (· = ·) (Binding.Opposite s order) where
  consumes := by
    rintro a b (rfl | ⟨rfl, rfl⟩)
    · rfl
    · exact (consumes_reordered order).symm
  coindex := by
    rintro a b (rfl | ⟨rfl, rfl⟩)
    · rfl
    · rfl
  key := congrArg Phoneme.key
  marked := by
    rintro a b p q (rfl | ⟨rfl, rfl⟩) rfl
    · rfl
    · rfl
  chosen := by
    rintro a b p q (rfl | ⟨rfl, rfl⟩) rfl
    · exact rel_mono (rel_self _) fun i j same => .inl (by rw [same])
    · refine rel_mono (choose?_reordered order distinct p) ?_
      rintro i j ⟨place, rfl, rfl⟩
      exact .inr ⟨p, place, rfl, rfl⟩
  passed := by
    rintro a b (rfl | ⟨rfl, rfl⟩) passes
    · exact .inl rfl
    · exact absurd consumes passes
  filled := by
    rintro b c (rfl | ⟨p, place, rfl, rfl⟩)
    · rfl
    · rfl

end

/-! ## What is written -/

/-- What a binding writes depends on its phoneme, on the literal it writes, and on the marks. -/
theorem Binding.render_congr {b c : Binding} {captures : Captures}
    (phoneme : b.phoneme = c.phoneme) (literal : b.literal captures = c.literal captures)
    (dropped : b.droppedMarks = c.droppedMarks) (oldMark : b.step.oldMark = c.step.oldMark)
    (newMark : b.step.newMark = c.step.newMark) (convention : Convention) :
    b.render captures convention = c.render captures convention := by
  simp only [Binding.render, Binding.letters, Binding.writtenMarks, Binding.carriedMarks, phoneme,
    literal, dropped, oldMark, newMark]

/-- Of several literals to write, the one at the index of the choice is written. -/
theorem Binding.literal_of_several {b : Binding} (coindex : b.step.newCoindex = none)
    (several : 2 ≤ b.step.replace.length) (captures : Captures) :
    b.literal captures = match b.step.replace[b.choice]? with
      | some literal => .ok (some literal)
      | none => .error .missingReplacement := by
  rw [Binding.literal, coindex]
  generalize b.step.replace = literals at several ⊢
  rcases literals with _ | ⟨_, _ | ⟨_, _⟩⟩
  · exact absurd several (by simp)
  · exact absurd several (by simp)
  · rfl

/-- A single literal to write is written whatever the choice is, and so is what is captured. -/
theorem Binding.literal_congr {b c : Binding} (coindex : b.step.newCoindex = c.step.newCoindex)
    (replace : b.step.replace = c.step.replace)
    (single : b.step.newCoindex = none → b.step.replace.length ≤ 1) (captures : Captures) :
    b.literal captures = c.literal captures := by
  rw [Binding.literal, Binding.literal, ← coindex, ← replace]
  cases written : b.step.newCoindex with
  | some n => rfl
  | none =>
    have single := single written
    generalize b.step.replace = literals at single ⊢
    rcases literals with _ | ⟨_, _ | ⟨_, _⟩⟩
    · rfl
    · rfl
    · exact absurd single (by simp)

section

variable {s : Step} (order : Equiv.Perm (Fin s.find.length))

/-- The literal to write has moved along with the alternative. -/
theorem literal_reordered (wellFormed : s.WellFormed) (several : 2 ≤ s.find.length) (p : Phoneme)
    (place : Fin s.find.length) (captures : Captures) :
    Binding.literal ⟨s, some p, (order place).val⟩ captures =
      Binding.literal ⟨s.reordered order, some p, place.val⟩ captures := by
  by_cases sizes : s.find.length = s.replace.length
  · cases coindex : s.newCoindex with
    | some n => rw [Binding.literal, Binding.literal, Step.reordered, coindex]
    | none =>
      rw [Binding.literal_of_several coindex (sizes ▸ several),
        Binding.literal_of_several (b := ⟨s.reordered order, some p, place.val⟩) coindex
          (length_replace_reordered order ▸ sizes ▸ several),
        getElem?_replace_reordered order sizes place]
  · have single : s.replace.length ≤ 1 := by
      have sizes := wellFormed.sizes
      omega
    exact Binding.literal_congr (b := ⟨s, some p, (order place).val⟩)
      (c := ⟨s.reordered order, some p, place.val⟩) rfl
      (replace_reordered_of_ne order sizes).symm (fun _ => single) captures

theorem Binding.Opposite.render (wellFormed : s.WellFormed) (several : 2 ≤ s.find.length)
    {b c : Binding} (h : Binding.Opposite s order b c) (captures : Captures)
    (convention : Convention) : b.render captures convention = c.render captures convention := by
  rcases h with rfl | ⟨p, place, rfl, rfl⟩
  · rfl
  · have literal := literal_reordered order wellFormed several p place captures
    refine Binding.render_congr (b := ⟨s, some p, (order place).val⟩)
      (c := ⟨s.reordered order, some p, place.val⟩) rfl literal ?_ rfl rfl convention
    simp only [Binding.droppedMarks, getElem?_find_reordered order place]
    rfl

end

/-! ## Words -/

/-- Variants that match a word alike, and write the same for opposite bindings, make the same of
    it. -/
theorem substitute_congr {B : Binding → Binding → Prop} {v w : Variant} {word : Text}
    (alike : Option.Rel (Match.Alike B) (v.findMatch? (phonemes DigraphTable.rules word.nfc))
      (w.findMatch? (phonemes DigraphTable.rules word.nfc)))
    (renders : ∀ b c, B b c → ∀ captures convention,
      b.render captures convention = c.render captures convention)
    (convention : Option Convention) :
    v.substitute word convention = w.substitute word convention := by
  rw [Variant.substitute, Variant.substitute]
  generalize v.findMatch? (phonemes DigraphTable.rules word.nfc) = first at alike ⊢
  generalize w.findMatch? (phonemes DigraphTable.rules word.nfc) = second at alike ⊢
  cases alike with
  | none => rfl
  | @some m n alike =>
    have place := Match.offsets_congr alike.start alike.stop
      (phonemes DigraphTable.rules word.nfc) word.nfc
    have written : m.bindings.mapM (fun b =>
        b.render m.captures (convention.getD (Convention.detect word.nfc))) =
      n.bindings.mapM (fun b =>
        b.render n.captures (convention.getD (Convention.detect word.nfc))) :=
      mapM_congr_of_forall₂ (alike.bindings.imp fun b c opposite => by
        rw [renders b c opposite, alike.captures])
    simp only [written, place.1, place.2]

/-- The order of the alternatives of a step does not matter if they are different phonemes: whether
    the rule matches a word and what it makes of it stays the same when they change places, along
    with what is written for each. -/
theorem substitute_reordered {notated : Text} {variants : List Variant}
    (compiled : compile notated = .ok variants) {v : Variant} (member : v ∈ variants)
    {before after : List Step} {s : Step} (row : v.steps = before ++ s :: after)
    (several : 2 ≤ s.find.length) (distinct : (s.find.map Text.literalKey).Nodup)
    (order : Equiv.Perm (Fin s.find.length)) (word : Text) (convention : Option Convention) :
    ∃ result, v.substitute word convention = .ok result ∧
      Variant.substitute { v with steps := before ++ s.reordered order :: after } word convention =
        .ok result := by
  have wellFormed := wellFormed_of_compile compiled v member
  have own : s.WellFormed := wellFormed.steps s (by simp [row])
  have consumes : s.consumes = true := own.consumes (List.length_pos_iff.1 (by omega))
  obtain ⟨result, substituted⟩ := exists_substitute_eq_ok wellFormed word convention
  refine ⟨result, substituted, ?_⟩
  rw [← substituted]
  have same (row : List Step) : List.Forall₂ (Step.Opposite s order) row row :=
    List.forall₂_same.2 fun _ _ => .inl rfl
  have rows : List.Forall₂ (Step.Opposite s order) v.steps (before ++ s.reordered order :: after) :=
    row ▸ List.rel_append (same before) (.cons (.inr ⟨rfl, rfl⟩) (same after))
  have alike := (simulation_reordered order consumes distinct).findMatch?
    (w := { v with steps := before ++ s.reordered order :: after }) rows rfl
    (List.forall₂_refl (phonemes DigraphTable.rules word.nfc))
  exact (substitute_congr alike (fun _ _ h => h.render order own several) convention).symm

/-- A vowel stays as it is. -/
def keptVowel : Step where
  find := vowelClass
  replace := vowelClass
  oldCoindex := some 1
  newCoindex := some 1

/-- A stop is voiced. -/
def voicing : Step where
  find := [['p'], ['t'], ['k']]
  replace := [['b'], ['d'], ['g']]

/-- The first two stops. -/
def firstStopsSwapped : Equiv.Perm (Fin voicing.find.length) :=
  Equiv.swap ⟨0, by decide⟩ ⟨1, by decide⟩

-- The `t` is the second stop as the rule is written, and the first one when they change places.
theorem substitute_reordered_of_voicing :
    compile ['V', '₁', '{', 'p', 't', 'k', '}', '>', 'V', '₁', '{', 'b', 'd', 'g', '}'] =
        .ok [{ steps := [keptVowel, voicing] }] ∧
      (voicing.reordered firstStopsSwapped).find = [['t'], ['p'], ['k']] ∧
      (voicing.find.map Text.literalKey).Nodup ∧
      Variant.substitute { steps := [keptVowel, voicing] } ['s', 'á', 't', 'o', 'r'] none =
        .ok (some ['s', 'á', 'd', 'o', 'r']) ∧
      Variant.substitute { steps := [keptVowel, voicing.reordered firstStopsSwapped] }
        ['s', 'á', 't', 'o', 'r'] none = .ok (some ['s', 'á', 'd', 'o', 'r']) := by
  have compiled : compile
      ['V', '₁', '{', 'p', 't', 'k', '}', '>', 'V', '₁', '{', 'b', 'd', 'g', '}'] =
        .ok [{ steps := [keptVowel, voicing] }] := by
    apply eq_ok_of_toOption_eq_some
    decide +kernel
  have distinct : (voicing.find.map Text.literalKey).Nodup := by decide +kernel
  have made : Variant.substitute { steps := [keptVowel, voicing] } ['s', 'á', 't', 'o', 'r'] none =
      .ok (some ['s', 'á', 'd', 'o', 'r']) := by
    apply eq_ok_of_toOption_eq_some
    decide +kernel
  have row : [keptVowel, voicing] = [keptVowel] ++ voicing :: [] := rfl
  obtain ⟨result, made', same⟩ := substitute_reordered compiled List.mem_cons_self row (by decide)
    distinct firstStopsSwapped ['s', 'á', 't', 'o', 'r'] none
  obtain rfl := Except.ok.inj (made.symm.trans made')
  exact ⟨compiled, by decide, distinct, made, same⟩

end SoundLaw
