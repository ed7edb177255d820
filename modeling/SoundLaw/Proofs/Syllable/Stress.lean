/-
  SoundLaw.Proofs.Syllable.Stress

  Where the stress of a word is. It is told from the weights that the analysis reports
  (`isStressed_iff`): a word of one syllable has none, and any longer word one on exactly one of its
  syllables, which is never the last one (`analyse_stress`).
-/
import SoundLaw.Proofs.Syllable.Partition

namespace SoundLaw

variable {v : VowelSystem} {word : Text} {compound : Bool}

/-! ## Weights -/

theorem map_weight_analyse (v : VowelSystem) (word : Text) (compound : Bool) :
    (v.analyse word compound).map Syllable.weight =
      (v.divide word compound).map (·.text.weight) := by
  apply List.ext_getElem?
  intro i
  rw [List.getElem?_map, List.getElem?_map, getElem?_analyse, Option.map_map]
  rfl

/-- A syllable is stressed where the weights of all syllables put the stress. -/
theorem isStressed_iff {i : Nat} {s : Syllable} (here : (v.analyse word compound)[i]? = some s) :
    s.isStressed = true ↔
      stressed? ((v.analyse word compound).map Syllable.weight) = some i := by
  rw [getElem?_analyse, Option.map_eq_some_iff] at here
  obtain ⟨part, _, rfl⟩ := here
  rw [isStressed_ofPart, beq_iff_eq, map_weight_analyse]

theorem one_le_length_analyse (v : VowelSystem) (word : Text) (compound : Bool) :
    1 ≤ (v.analyse word compound).length := by
  rw [length_analyse]
  generalize read : phonemes (DigraphTable.forSyllables compound) word = ps
  generalize found : v.nuclei ps = nuclei
  rcases Nat.lt_or_ge nuclei.length 2 with few | many
  · rw [divide_of_few (by rw [read, found]; exact few), List.length_singleton]
  · rw [length_divide read found many]
    omega

/-! ## The place of the stress -/

theorem stressed?_eq_none_iff {weights : List Weight} :
    stressed? weights = none ↔ weights.length < 2 := by
  rw [stressed?]
  split
  · next few => simp [few]
  · next several =>
    simp only [several, iff_false]
    split
    · simp
    · split <;> simp

/-- The stress of two syllables is on the first one, and that of more syllables on the last but one
    if it is heavy and on the one before if it is light. -/
inductive IsStressPlace (syllables : List Syllable) : Nat → Prop
  | first (two : syllables.length = 2) : IsStressPlace syllables 0
  | penult {s : Syllable} (many : 3 ≤ syllables.length)
      (here : syllables[syllables.length - 2]? = some s) (heavy : s.weight = .heavy) :
      IsStressPlace syllables (syllables.length - 2)
  | antepenult {s : Syllable} (many : 3 ≤ syllables.length)
      (here : syllables[syllables.length - 2]? = some s) (light : s.weight = .light) :
      IsStressPlace syllables (syllables.length - 3)

/-- The stress is never on the last syllable. -/
theorem IsStressPlace.lt_last {syllables : List Syllable} {place : Nat}
    (h : IsStressPlace syllables place) : place + 1 < syllables.length := by
  cases h with
  | first two => omega
  | penult many => omega
  | antepenult many => omega

theorem isStressPlace_of_stressed? {syllables : List Syllable} {place : Nat}
    (h : stressed? (syllables.map Syllable.weight) = some place) :
    IsStressPlace syllables place := by
  rw [stressed?, List.length_map] at h
  split at h
  · exact absurd h (by simp)
  · next several =>
    split at h
    · next two =>
      obtain rfl : 0 = place := Option.some.inj h
      exact .first two
    · next notTwo =>
      have many : 3 ≤ syllables.length := by omega
      have here := List.getElem?_eq_getElem (l := syllables) (i := syllables.length - 2) (by omega)
      rw [List.getElem?_map, here, Option.map_some] at h
      split at h
      · next heavy =>
        obtain rfl := Option.some.inj h
        exact .penult many here (Option.some.inj heavy)
      · next light =>
        obtain rfl := Option.some.inj h
        refine .antepenult many here ?_
        cases weight : syllables[syllables.length - 2].weight with
        | light => rfl
        | heavy => exact absurd (congrArg some weight) light

/-- The only syllable of a word is not stressed; of several syllables exactly one is, at the place
    that their number and their weights tell. -/
theorem analyse_stress (v : VowelSystem) (word : Text) (compound : Bool) :
    ((v.analyse word compound).length = 1 ∧
      ∀ s ∈ v.analyse word compound, s.isStressed = false) ∨
    (2 ≤ (v.analyse word compound).length ∧ ∃ place,
      IsStressPlace (v.analyse word compound) place ∧
      place + 1 < (v.analyse word compound).length ∧
      ∀ i s, (v.analyse word compound)[i]? = some s → (s.isStressed = true ↔ i = place)) := by
  have filled := one_le_length_analyse v word compound
  cases stress : stressed? ((v.analyse word compound).map Syllable.weight) with
  | none =>
    have few := stressed?_eq_none_iff.1 stress
    rw [List.length_map] at few
    refine .inl ⟨by omega, fun s hs => ?_⟩
    obtain ⟨i, here⟩ := List.getElem?_of_mem hs
    rw [← Bool.not_eq_true, isStressed_iff here, stress]
    exact (Option.some_ne_none i).symm
  | some place =>
    have falls := isStressPlace_of_stressed? stress
    have inside := falls.lt_last
    refine .inr ⟨by omega, place, falls, inside, fun i s here => ?_⟩
    rw [isStressed_iff here, stress, Option.some_inj, eq_comm]

-- The last but one syllable of `elessar` is heavy, because a consonant ends it.
example : (VowelSystem.analyse {} ['e', 'l', 'e', 's', 's', 'a', 'r'] false).map
    (fun s => (s.weight, s.isStressed)) =
      [(.light, false), (.heavy, true), (.heavy, false)] := by decide +kernel

end SoundLaw
