/-
  SoundLaw.Proofs.Match.SingleStep

  Matching a variant of one step that consumes a phoneme. It matches the first phoneme that the step
  accepts (`findMatch?_singleStep`).
-/
import SoundLaw.Proofs.Match.Leftmost

namespace SoundLaw

/-- The variant of one step, anywhere in a word. -/
def Step.variant (s : Step) : Variant := { steps := [s] }

section

variable {s : Step} (consumes : s.consumes = true) {ps : List Phoneme}

include consumes

theorem consuming_singleStep : s.variant.consuming = [s] := by
  simp [Step.variant, Variant.consuming, consumes]

theorem admits_singleStep_iff {o : Nat} :
    s.variant.Admits ps o ↔ ∃ p, ps[o]? = some p ∧ s.Accepts p := by
  have single := consuming_singleStep consumes
  constructor
  · rintro ⟨room, accepted, _⟩
    rw [single, List.length_singleton] at room
    have here : ps[o]? = some ps[o] := List.getElem?_eq_getElem room
    refine ⟨ps[o], here, accepted (s, ps[o]) ?_⟩
    rw [single, List.drop_eq_getElem_cons room, List.zip_cons_cons]
    exact List.mem_cons_self
  · rintro ⟨p, here, accepts⟩
    obtain ⟨room, rfl⟩ := List.getElem?_eq_some_iff.1 here
    have pairs : s.variant.consuming.zip (ps.drop o) = [(s, ps[o])] := by
      rw [single, List.drop_eq_getElem_cons room, List.zip_cons_cons, List.zip_nil_left]
    refine ⟨by rwa [single], ?_, ?_, trivial⟩
    · rw [pairs]
      exact List.forall_mem_singleton.2 accepts
    · -- There is one phoneme only to hold a coindex.
      rw [pairs]
      intro a ha b hb _ _ _
      rw [List.mem_singleton.1 ha, List.mem_singleton.1 hb]

/-- What is bound where a single step matches. -/
theorem Match.Binds.exists_singleStep {m : Match} (binds : m.Binds s.variant ps)
    (admits : s.variant.Admits ps m.start) :
    m.stop = m.start + 1 ∧ ∃ p i, ps[m.start]? = some p ∧ s.Accepts p ∧ s.Prefers p i ∧
      m.bindings = [⟨s, some p, i⟩] := by
  obtain ⟨p, here, accepts⟩ := (admits_singleStep_iff consumes).1 admits
  refine ⟨by rw [binds.stop, consuming_singleStep consumes, List.length_singleton], p, ?_⟩
  obtain ⟨b, bindings, step⟩ := List.map_eq_singleton_iff.1 binds.row
  have member : b ∈ m.bindings := bindings ▸ List.mem_cons_self
  obtain ⟨q, bound⟩ : ∃ q, b.phoneme = some q := by
    have isBound := binds.consumes b member
    rw [step, consumes] at isBound
    exact Option.isSome_iff_exists.1 isBound
  -- The step is paired with the phoneme that stands at the start of the match.
  have pair := binds.mem_zip member bound
  obtain ⟨room, rfl⟩ := List.getElem?_eq_some_iff.1 here
  rw [consuming_singleStep consumes, List.drop_eq_getElem_cons room, List.zip_cons_cons,
    List.zip_nil_left, List.mem_singleton] at pair
  obtain rfl := (Prod.mk.inj pair).2
  have prefers := binds.chosen b member _ bound
  rw [step] at prefers
  refine ⟨b.choice, here, accepts, prefers, ?_⟩
  rw [bindings, ← step, ← bound]

theorem findMatch?_singleStep {m : Match} (found : s.variant.findMatch? ps = some m) :
    m.stop = m.start + 1 ∧ (∀ o < m.start, ∀ p, ps[o]? = some p → ¬s.Accepts p) ∧
      ∃ p i, ps[m.start]? = some p ∧ s.Accepts p ∧ s.Prefers p i ∧
        m.bindings = [⟨s, some p, i⟩] := by
  obtain ⟨admits, leftmost, binds⟩ := binds_of_findMatch? found
  obtain ⟨stop, bound⟩ := binds.exists_singleStep consumes admits
  refine ⟨stop, fun o before p here accepts => leftmost o before ?_, bound⟩
  exact (admits_singleStep_iff consumes).2 ⟨p, here, accepts⟩

/-- A single step matches the first phoneme that it accepts. -/
theorem exists_findMatch?_singleStep {o : Nat} {p : Phoneme} (here : ps[o]? = some p)
    (accepts : s.Accepts p) (first : ∀ j < o, ∀ q, ps[j]? = some q → ¬s.Accepts q) :
    ∃ m i, s.variant.findMatch? ps = some m ∧ m.start = o ∧ m.stop = o + 1 ∧ s.Prefers p i ∧
      m.bindings = [⟨s, some p, i⟩] := by
  have admits := (admits_singleStep_iff consumes).2 ⟨p, here, accepts⟩
  cases found : s.variant.findMatch? ps with
  | none => exact absurd admits (findMatch?_eq_none_iff.1 found o)
  | some m =>
    obtain ⟨stop, earlier, q, i, there, accepted, prefers, bindings⟩ :=
      findMatch?_singleStep consumes found
    -- No other place is first.
    have same : m.start = o := by
      rcases Nat.lt_trichotomy m.start o with before | same | after
      · exact absurd accepted (first m.start before q there)
      · exact same
      · exact absurd accepts (earlier o after p here)
    rw [same] at stop there
    obtain rfl := Option.some.inj (here.symm.trans there)
    exact ⟨m, i, rfl, same, stop, prefers, bindings⟩

end

end SoundLaw
