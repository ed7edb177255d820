/-
  SoundLaw.Proofs.Variant.Faults

  How a notation fails to compile. Its halves, options, braces, slots and coindices can be faulty,
  and all of these are faults of the notation. Beside them there is one failure of another kind: a
  notation with a placeholder of its own may ask for a group that it does not have
  (`isOfNotation_of_compile`).
-/
import SoundLaw.Proofs.Notation.Halves
import SoundLaw.Proofs.Notation.Parsing
import SoundLaw.Proofs.Variant.Alignment

namespace SoundLaw

/-- What can go wrong with a notation: it is faulty, or a placeholder of its own lacks a group. -/
def Error.IsOfNotation (e : Error) (notated : Text) : Prop :=
  (∃ fault, e = .malformed fault) ∨ (e = .missingGroup ∧ placeholder ∈ notated)

theorem Error.IsOfNotation.mono {e : Error} {t u : Text} (h : e.IsOfNotation t)
    (part : ∀ c ∈ t, c ∈ u) : e.IsOfNotation u :=
  h.imp_right fun ⟨lacks, foreign⟩ => ⟨lacks, part placeholder foreign⟩

/-! ## The parts of a notation -/

/-- A notation is split into two halves of it, or it is faulty. -/
theorem splitHalves_cases (notated : Text) :
    IsFault (splitHalves notated) ∨ ∃ old new, splitHalves notated = .ok (old, new) ∧
      (∀ c ∈ old, c ∈ notated) ∧ ∀ c ∈ new, c ∈ notated := by
  rw [splitHalves]
  split
  · next old new split =>
    have first : old ∈ notated.split '>' := by simp [split]
    have second : new ∈ notated.split '>' := by simp [split]
    have parts := (Text.isInfix_of_mem_split '>' notated).2
    exact Or.inr ⟨_, _, rfl, (old.stripBrackets_isInfix.trans (parts old first)).subset,
      (new.stripBrackets_isInfix.trans (parts new second)).subset⟩
  · exact Or.inl ⟨_, rfl⟩

/-- A notation is split into as many old and new options, which are parts of it, or it is faulty. -/
theorem splitOptions_cases (notated : Text) :
    IsFault (splitOptions notated) ∨ ∃ old new, splitOptions notated = .ok (old, new) ∧
      (∀ option ∈ old, ∀ c ∈ option, c ∈ notated) ∧
      ∀ option ∈ new, ∀ c ∈ option, c ∈ notated := by
  rw [splitOptions]
  rcases splitHalves_cases notated with ⟨fault, refused⟩ | ⟨old, new, halves, inOld, inNew⟩
  · rw [refused]
    exact Or.inl ⟨fault, rfl⟩
  · simp only [halves, bind, Except.bind]
    split
    · exact Or.inl ⟨_, rfl⟩
    · refine Or.inr ⟨_, _, rfl, fun option listed c hc => ?_, fun option listed c hc => ?_⟩
      · exact inOld c ((Text.isInfix_of_mem_options listed).subset hc)
      · exact inNew c ((Text.isInfix_of_mem_options listed).subset hc)

/-! ## Compiling -/

theorem isOfNotation_of_parse {segment : Text} {e : Error}
    (failed : Form.parse segment = .error e) : e.IsOfNotation segment := by
  rcases parse_error_cases failed with ⟨rfl, _⟩ | ⟨c, _, _, rfl⟩ | lacks
  · exact Or.inl ⟨_, rfl⟩
  · exact Or.inl ⟨_, rfl⟩
  · exact Or.inr lacks

theorem isOfNotation_of_ofSegments {position : Position} {old new notated : Text} {e : Error}
    (inOld : ∀ c ∈ old, c ∈ notated) (inNew : ∀ c ∈ new, c ∈ notated)
    (failed : Variant.ofSegments position old new = .error e) : e.IsOfNotation notated := by
  rcases bind_eq_error_iff.1 failed with failed | ⟨oldForm, _, failed⟩
  · exact (isOfNotation_of_parse failed).mono inOld
  rcases bind_eq_error_iff.1 failed with failed | ⟨newForm, _, failed⟩
  · exact (isOfNotation_of_parse failed).mono inNew
  rcases ofForms_cases position oldForm newForm with ⟨made, _⟩ | ⟨⟨fault, refused⟩, _⟩
  · exact absurd (made.symm.trans failed) (by simp)
  · exact Or.inl ⟨fault, Except.error.inj (failed.symm.trans refused)⟩

/-- A notation that does not compile is faulty, or has a placeholder of its own. -/
theorem isOfNotation_of_compile {notated : Text} {e : Error} (failed : compile notated = .error e) :
    e.IsOfNotation notated := by
  rcases bind_eq_error_iff.1 failed with failed | ⟨⟨oldHalf, newHalf⟩, _, failed⟩
  · rcases splitHalves_cases notated with ⟨fault, refused⟩ | ⟨_, _, halves, _⟩
    · exact Or.inl ⟨fault, Except.error.inj (failed.symm.trans refused)⟩
    · exact absurd (halves.symm.trans failed) (by simp)
  -- The notation is split once more, into its options.
  rcases splitOptions_cases notated with ⟨fault, refused⟩ | ⟨old, new, split, inOld, inNew⟩
  · rcases bind_eq_error_iff.1 failed with failed | ⟨_, split, _⟩
    · exact Or.inl ⟨fault, Except.error.inj (failed.symm.trans refused)⟩
    · exact absurd (split.symm.trans refused) (by simp)
  · rcases bind_eq_error_iff.1 failed with failed | ⟨_, split', failed⟩
    · exact absurd (split.symm.trans failed) (by simp)
    · obtain rfl := Except.ok.inj (split.symm.trans split')
      obtain ⟨segments, member, failed⟩ := exists_of_mapM_eq_error failed
      obtain ⟨inZip, inZip'⟩ := List.of_mem_zip member
      exact isOfNotation_of_ofSegments (inOld _ inZip) (inNew _ inZip') failed

end SoundLaw
