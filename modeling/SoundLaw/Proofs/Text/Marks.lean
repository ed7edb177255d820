/-
  SoundLaw.Proofs.Text.Marks

  The marks of a text. They are those of its characters, in canonical order, whatever the normal form
  of the text (`Text.marks_perm`), so that those of a text in two parts are those of its parts.
-/
import SoundLaw.Diacritic
import SoundLaw.Proofs.Text.NormalForm

namespace SoundLaw

theorem Text.marks_perm (t : Text) : t.marks.Perm ((t.flatMap decompose).filter isMark) :=
  (reorderMarks_perm _).filter isMark

theorem Text.marks_append (a b : Text) : (a ++ b).marks.Perm (a.marks ++ b.marks) := by
  refine (Text.marks_perm (a ++ b)).trans ?_
  rw [List.flatMap_append, List.filter_append]
  exact (Text.marks_perm a).symm.append (Text.marks_perm b).symm

theorem Text.marks_nfc (t : Text) : t.nfc.marks = t.marks := by
  rw [Text.marks, Text.nfd_nfc, Text.marks]

/-- Marks that do not decompose are those of the text that they are. -/
theorem Text.marks_of_final_marks {marks : Text} (marked : ∀ m ∈ marks, isMark m = true)
    (final : ∀ m ∈ marks, decompose m = [m]) : marks.marks.Perm marks := by
  have whole := Text.marks_perm marks
  rwa [flatMap_decompose_eq_self final, List.filter_eq_self.2 marked] at whole

theorem Text.marks_marks (t : Text) : t.marks.marks.Perm t.marks :=
  Text.marks_of_final_marks (fun _ hm => Text.isMark_of_mem_marks hm)
    fun _ hm => decompose_eq_self_of_mem_nfd (List.mem_of_mem_filter hm)

theorem Text.nodup_marks {t : Text} (final : ∀ m ∈ t, decompose m = [m]) (once : t.Nodup) :
    t.marks.Nodup := by
  have whole := Text.marks_perm t
  rw [flatMap_decompose_eq_self final] at whole
  exact whole.nodup_iff.2 (once.filter isMark)

theorem Text.mem_of_mem_marks {t : Text} (final : ∀ c ∈ t, decompose c = [c]) {m : Char}
    (h : m ∈ t.marks) : m ∈ t := by
  have whole := (Text.marks_perm t).mem_iff.1 h
  rw [flatMap_decompose_eq_self final] at whole
  exact List.mem_of_mem_filter whole

/-- Marks do not decompose to nothing. -/
theorem Text.eq_nil_of_marks_eq_nil {marks : Text} (marked : ∀ m ∈ marks, isMark m = true)
    (none : marks.marks = []) : marks = [] := by
  refine List.eq_nil_iff_forall_not_mem.2 fun m hm => ?_
  obtain ⟨d, hd⟩ := List.exists_mem_of_ne_nil _ (decompose_ne_nil m)
  have inside : d ∈ marks.marks := (Text.marks_perm marks).mem_iff.2
    (List.mem_filter.2 ⟨List.mem_flatMap.2 ⟨m, hm, hd⟩, isMark_of_mem_decompose (marked m hm) hd⟩)
  rw [none] at inside
  exact absurd inside List.not_mem_nil

/-! ## Letters without marks -/

theorem marks_of_letters {letters : Text}
    (plain : ∀ c ∈ letters, decompose c = [c] ∧ isMark c = false) : letters.marks = [] := by
  have whole := Text.marks_perm letters
  rw [flatMap_decompose_eq_self fun c hc => (plain c hc).1, List.filter_eq_nil_iff.2] at whole
  · exact whole.eq_nil
  · intro c hc
    simp [(plain c hc).2]

theorem letters_of_mem_base (t : Text) : ∀ c ∈ t.base, decompose c = [c] ∧ isMark c = false :=
  fun _ hc => ⟨decompose_eq_self_of_mem_nfd (List.mem_of_mem_filter hc),
    Text.not_isMark_of_mem_base hc⟩

end SoundLaw
