/-
  SoundLaw.Proofs.Variant.Alignment

  When two forms can be aligned. `Slot.PairsWith` collects what is asked of a pair of slots, and
  `align_cases` says that forms of one length whose slots pair up are aligned, and no others. The
  refusal of all others is a fault of the notation.
-/
import SoundLaw.Proofs.Traversal
import SoundLaw.Variant.Compiled

namespace SoundLaw

/-- What is asked of an old and a new slot, where `row` are the slots of the old form. -/
structure Slot.PairsWith (row : List Slot) (old new : Slot) : Prop where
  oldBare : old.symbol = .wildcard ∨ old.symbol = .deletion → old.coindex = none
  newBare : new.symbol = .wildcard ∨ new.symbol = .deletion → new.coindex = none
  wildcards : old.symbol = .wildcard ↔ new.symbol = .wildcard
  declared : old.symbol ≠ .wildcard → ∀ n, new.coindex = some n → ∃ s ∈ row, s.coindex = some n
  sizes : old.symbol ≠ .wildcard →
    new.symbol.literals.length ≤ 1 ∨ new.symbol.literals.length = old.symbol.literals.length

/-- The step that an old and a new slot make if they pair up. -/
def Step.between (old new : Slot) : Step :=
  if old.symbol = .wildcard then { find := [], replace := [], wildcard := true }
  else {
    find := old.symbol.literals
    replace := new.symbol.literals
    oldCoindex := old.coindex.map Int.ofNat
    newCoindex := new.coindex.map Int.ofNat
    oldMark := old.mark
    newMark := new.mark }

/-- A refusal that is a fault of the notation. -/
def IsFault {α : Type} (result : Except Error α) : Prop :=
  ∃ fault, result = .error (.malformed fault)

/-- A traversal whose elements give a result exactly if they meet a condition, and are faults
    otherwise, gives the results if all of them meet it, and is a fault otherwise. -/
theorem mapM_cases {α β : Type} {f : α → Except Error β} {g : α → β} {P : α → Prop}
    (each : ∀ x, (f x = .ok (g x) ∧ P x) ∨ (IsFault (f x) ∧ ¬P x)) (xs : List α) :
    (xs.mapM f = .ok (xs.map g) ∧ ∀ x ∈ xs, P x) ∨ (IsFault (xs.mapM f) ∧ ¬∀ x ∈ xs, P x) := by
  cases traversed : xs.mapM f with
  | ok ys =>
    left
    have all : ∀ x ∈ xs, f x = .ok (g x) ∧ P x := by
      intro x hx
      obtain ⟨y, _, made⟩ := exists_of_forall₂ (mapM_eq_ok_iff.1 traversed) hx
      rcases each x with meets | ⟨⟨fault, refused⟩, _⟩
      · exact meets
      · exact absurd (made.symm.trans refused) (by simp)
    rw [← traversed]
    exact ⟨mapM_eq_ok_map fun x hx => (all x hx).1, fun x hx => (all x hx).2⟩
  | error e =>
    right
    obtain ⟨x, hx, failed⟩ := exists_of_mapM_eq_error traversed
    rcases each x with ⟨made, _⟩ | ⟨⟨fault, refused⟩, unmet⟩
    · exact absurd (failed.symm.trans made) (by simp)
    · have same : e = .malformed fault := Except.error.inj (failed.symm.trans refused)
      exact ⟨⟨fault, by rw [same]⟩, fun all => unmet (all x hx)⟩

/-! ## One pair of slots -/

theorem Slot.checkCoindex_cases (s : Slot) :
    (s.checkCoindex = .ok ⟨⟩ ∧
        (s.symbol = .wildcard ∨ s.symbol = .deletion → s.coindex = none)) ∨
      (IsFault s.checkCoindex ∧
        ¬(s.symbol = .wildcard ∨ s.symbol = .deletion → s.coindex = none)) := by
  obtain ⟨symbol, mark, coindex⟩ := s
  cases coindex with
  | none => simp [Slot.checkCoindex]
  | some n =>
    cases symbol with
    | literal c => simp [Slot.checkCoindex, Symbol.isPhoneme]
    | group content => simp [Slot.checkCoindex, Symbol.isPhoneme]
    | vowel => simp [Slot.checkCoindex, Symbol.isPhoneme]
    | wildcard => exact Or.inr ⟨⟨.emptyCoindex n .wildcard, rfl⟩, by simp⟩
    | deletion => exact Or.inr ⟨⟨.emptyCoindex n .deletion, rfl⟩, by simp⟩

theorem filter_not_contains_eq_none_iff {coindex : Option Nat} {declared : List Nat} :
    coindex.filter (!declared.contains ·) = none ↔ ∀ n, coindex = some n → n ∈ declared := by
  cases coindex with
  | none => simp
  | some n => simp [Option.filter_some]

/-- Two slots whose coindices are checked, and neither of which is a wildcard. -/
theorem ofSlots_cases_of_ne_wildcard (row : List Slot) {old new : Slot}
    (oldChecked : (old.checkCoindex : Except Error Unit) = .ok ())
    (newChecked : (new.checkCoindex : Except Error Unit) = .ok ())
    (oldWild : old.symbol ≠ .wildcard) (newWild : new.symbol ≠ .wildcard) :
    (Step.ofSlots (row.filterMap Slot.coindex) old new = .ok (Step.between old new) ∧
        (∀ n, new.coindex = some n → ∃ s ∈ row, s.coindex = some n) ∧
        (new.symbol.literals.length ≤ 1 ∨
          new.symbol.literals.length = old.symbol.literals.length)) ∨
      (IsFault (Step.ofSlots (row.filterMap Slot.coindex) old new) ∧
        ¬((∀ n, new.coindex = some n → ∃ s ∈ row, s.coindex = some n) ∧
          (new.symbol.literals.length ≤ 1 ∨
            new.symbol.literals.length = old.symbol.literals.length))) := by
  have declared : ∀ n, n ∈ row.filterMap Slot.coindex ↔ ∃ s ∈ row, s.coindex = some n := by simp
  rw [Step.ofSlots, oldChecked, newChecked]
  simp only [bind, Except.bind, pure, Except.pure, oldWild, newWild, false_and, or_false, if_false]
  -- The coindex comes first, then the sizes.
  cases coindex : new.coindex.filter (!(row.filterMap Slot.coindex).contains ·) with
  | some n =>
    right
    refine ⟨⟨.undeclared n, rfl⟩, fun h => ?_⟩
    rw [filter_not_contains_eq_none_iff.2 fun n hn => (declared n).2 (h.1 n hn)] at coindex
    exact absurd coindex (by simp)
  | none =>
    have coindex := filter_not_contains_eq_none_iff.1 coindex
    by_cases sizes : 1 < new.symbol.literals.length ∧
        new.symbol.literals.length ≠ old.symbol.literals.length
    · right
      refine ⟨⟨.alternatives _ _, by rw [if_pos sizes]⟩, fun h => ?_⟩
      rcases h.2 with few | same
      · omega
      · exact sizes.2 same
    · left
      refine ⟨by rw [if_neg sizes, Step.between, if_neg oldWild], ?_, ?_⟩
      · exact fun n hn => (declared n).1 (coindex n hn)
      · omega

/-- A pair of slots makes its step if it meets what is asked, and is a fault otherwise. -/
theorem ofSlots_cases (row : List Slot) (old new : Slot) :
    (Step.ofSlots (row.filterMap Slot.coindex) old new = .ok (Step.between old new) ∧
        old.PairsWith row new) ∨
      (IsFault (Step.ofSlots (row.filterMap Slot.coindex) old new) ∧ ¬old.PairsWith row new) := by
  -- The coindices of both slots are checked before anything else.
  rcases old.checkCoindex_cases with ⟨oldChecked, oldBare⟩ | ⟨⟨fault, refused⟩, bare⟩
  case inr =>
    rw [Step.ofSlots, refused]
    exact Or.inr ⟨⟨fault, rfl⟩, fun h => bare h.oldBare⟩
  rcases new.checkCoindex_cases with ⟨newChecked, newBare⟩ | ⟨⟨fault, refused⟩, bare⟩
  case inr =>
    rw [Step.ofSlots, oldChecked, refused]
    exact Or.inr ⟨⟨fault, rfl⟩, fun h => bare h.newBare⟩
  by_cases oldWild : old.symbol = .wildcard
  · by_cases newWild : new.symbol = .wildcard
    · -- Nothing else is asked of two wildcards.
      left
      refine ⟨?_, oldBare, newBare, by simp [oldWild, newWild], ?_, ?_⟩
      · rw [Step.ofSlots, oldChecked, newChecked, Step.between]
        simp [oldWild, newWild, bind, Except.bind, pure, Except.pure]
      · exact fun other => absurd oldWild other
      · exact fun other => absurd oldWild other
    · right
      refine ⟨⟨.loneWildcard old new, ?_⟩, fun h => newWild (h.wildcards.1 oldWild)⟩
      rw [Step.ofSlots, oldChecked, newChecked]
      simp [oldWild, newWild, bind, Except.bind]
  · by_cases newWild : new.symbol = .wildcard
    · right
      refine ⟨⟨.loneWildcard old new, ?_⟩, fun h => oldWild (h.wildcards.2 newWild)⟩
      rw [Step.ofSlots, oldChecked, newChecked]
      simp [oldWild, newWild, bind, Except.bind]
    · rcases ofSlots_cases_of_ne_wildcard row oldChecked newChecked oldWild newWild with
        ⟨made, declared, sizes⟩ | ⟨refused, unmet⟩
      · exact Or.inl ⟨made, oldBare, newBare, by simp [oldWild, newWild], fun _ => declared,
          fun _ => sizes⟩
      · exact Or.inr ⟨refused, fun h => unmet ⟨h.declared oldWild, h.sizes oldWild⟩⟩

/-! ## Forms -/

/-- What is asked of two forms. -/
structure Form.AlignsWith (old new : Form) : Prop where
  lengths : old.slots.length = new.slots.length
  pairs : ∀ pair ∈ old.slots.zip new.slots, pair.1.PairsWith old.slots pair.2

/-- The steps that two forms make if they align. -/
def stepsBetween (old new : Form) : List Step :=
  (old.slots.zip new.slots).map fun pair => Step.between pair.1 pair.2

/-- Two forms make their steps if they meet what is asked, and are a fault otherwise. -/
theorem align_cases (old new : Form) :
    (align old new = .ok (stepsBetween old new) ∧ old.AlignsWith new) ∨
      (IsFault (align old new) ∧ ¬old.AlignsWith new) := by
  rw [align]
  by_cases lengths : old.slots.length = new.slots.length
  case neg =>
    rw [if_pos lengths]
    exact Or.inr ⟨⟨.lengths _ _, rfl⟩, fun h => lengths h.lengths⟩
  rw [if_neg (not_not_intro lengths)]
  rcases mapM_cases (fun pair : Slot × Slot => ofSlots_cases old.slots pair.1 pair.2)
    (old.slots.zip new.slots) with ⟨made, pairs⟩ | ⟨refused, unpaired⟩
  · exact Or.inl ⟨made, lengths, pairs⟩
  · exact Or.inr ⟨refused, fun h => unpaired h.pairs⟩

/-- Two forms make a variant, wherever it is to match, exactly if they align, and are a fault of the
    notation otherwise. -/
theorem ofForms_cases (position : Position) (old new : Form) :
    (Variant.ofForms position old new = .ok { steps := stepsBetween old new, position } ∧
        old.AlignsWith new) ∨
      (IsFault (Variant.ofForms position old new) ∧ ¬old.AlignsWith new) := by
  rw [Variant.ofForms]
  rcases align_cases old new with ⟨made, aligned⟩ | ⟨⟨fault, refused⟩, unaligned⟩
  · rw [made]
    exact Or.inl ⟨rfl, aligned⟩
  · rw [refused]
    exact Or.inr ⟨⟨fault, rfl⟩, unaligned⟩

end SoundLaw
