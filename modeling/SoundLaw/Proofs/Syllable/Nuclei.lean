/-
  SoundLaw.Proofs.Syllable.Nuclei

  What the scan for nuclei finds. It passes two phonemes at a diphthong and one anywhere else, so no
  vowel is passed over (`exists_nucleusFrom_of_isVowel`), and a vowel stands by itself only where
  no diphthong opens (`fits_of_mem_nucleiFrom`). A vowel may end a diphthong that opens before it,
  and then opens none.
-/
import SoundLaw.Proofs.Syllable.Partition

namespace SoundLaw

variable {v : VowelSystem} {ps : List Phoneme} {nuclei : List Nucleus} {n : Nucleus}

/-! ## One nucleus -/

/-- Two phonemes that spell a legal diphthong. -/
def Phoneme.OpensDiphthong (p q : Phoneme) : Prop := isDiphthong (p.text ++ q.text) = true

/-- The phonemes of a nucleus: the two of a diphthong, or a vowel that opens none. The list
    begins at `place`. -/
inductive Nucleus.Fits (v : VowelSystem) (place : Nat) (ps : List Phoneme) : Nucleus → Prop
  | diphthong {i : Nat} {p q : Phoneme} (first : ps[i]? = some p) (second : ps[i + 1]? = some q)
      (opens : p.OpensDiphthong q) : Nucleus.Fits v place ps ⟨place + i, place + i + 2⟩
  | vowel {i : Nat} {p : Phoneme} (here : ps[i]? = some p) (vowel : v.isVowel p.key = true)
      (hiatus : ∀ q, ps[i + 1]? = some q → ¬p.OpensDiphthong q) :
      Nucleus.Fits v place ps ⟨place + i, place + i + 1⟩

theorem Nucleus.Fits.cons {place : Nat} (p : Phoneme) (h : Nucleus.Fits v (place + 1) ps n) :
    Nucleus.Fits v place (p :: ps) n := by
  cases h with
  | @diphthong i q r first second opens =>
    rw [Nat.add_assoc place 1 i, Nat.add_comm 1 i]
    exact .diphthong (by simpa using first) (by simpa using second) opens
  | @vowel i q here vowel hiatus =>
    rw [Nat.add_assoc place 1 i, Nat.add_comm 1 i]
    exact .vowel (by simpa using here) vowel (by simpa using hiatus)

theorem fits_of_mem_nucleiFrom {place : Nat} (found : n ∈ v.nucleiFrom place ps) :
    Nucleus.Fits v place ps n := by
  induction place, ps using nuclei_scan with
  | done place => exact absurd found List.not_mem_nil
  | diphthong place p q ps opens ih =>
    rw [nucleiFrom_of_isDiphthong opens] at found
    rcases List.mem_cons.1 found with rfl | later
    · exact .diphthong (i := 0) rfl rfl opens
    · exact ((ih later).cons q).cons p
  | hiatus place p ps apart ih =>
    rw [nucleiFrom_of_hiatus apart] at found
    rcases List.mem_append.1 found with here | later
    · rcases v.nucleusAt_cases place p with ⟨vowel, one⟩ | ⟨_, none⟩
      · rw [one, List.mem_singleton] at here
        rw [here]
        exact .vowel (i := 0) rfl vowel fun q next => apart q (by simpa [List.head?_eq_getElem?] using next)
      · rw [none] at here
        exact absurd here List.not_mem_nil
    · exact (ih later).cons p

theorem fits_of_mem_nuclei (found : n ∈ v.nuclei ps) : Nucleus.Fits v 0 ps n :=
  fits_of_mem_nucleiFrom found

theorem Nucleus.Fits.cases_of_nuclei (h : Nucleus.Fits v 0 ps n) :
    (∃ p q, ps[n.start]? = some p ∧ ps[n.start + 1]? = some q ∧ n.stop = n.start + 2 ∧
      p.OpensDiphthong q) ∨
    ∃ p, ps[n.start]? = some p ∧ n.stop = n.start + 1 ∧ v.isVowel p.key = true ∧
      ∀ q, ps[n.start + 1]? = some q → ¬p.OpensDiphthong q := by
  cases h with
  | diphthong first second opens =>
    refine .inl ⟨_, _, ?_, ?_, rfl, opens⟩ <;> simpa only [Nat.zero_add]
  | vowel here vowel hiatus =>
    refine .inr ⟨_, ?_, rfl, vowel, ?_⟩ <;> simpa only [Nat.zero_add]

/-! ## All nuclei -/

theorem exists_nucleusFrom_of_isVowel (place : Nat) {i : Nat} {p : Phoneme}
    (here : ps[i]? = some p) (vowel : v.isVowel p.key = true) :
    ∃ n ∈ v.nucleiFrom place ps, n.start ≤ place + i ∧ place + i < n.stop := by
  -- A vowel at the head of the list is in the nucleus found there; any other one is in what is
  -- left of the list, or is the second half of the diphthong at its head.
  induction place, ps using nuclei_scan generalizing i with
  | done place => simp at here
  | diphthong place q r ps opens ih =>
    rw [nucleiFrom_of_isDiphthong opens]
    rcases i with _ | _ | i
    · exact ⟨_, List.mem_cons_self, by simp⟩
    · exact ⟨_, List.mem_cons_self, by simp⟩
    · obtain ⟨n, hn, first, last⟩ := ih (i := i) (by simpa using here)
      exact ⟨n, List.mem_cons_of_mem _ hn, by omega⟩
  | hiatus place q ps apart ih =>
    rw [nucleiFrom_of_hiatus apart]
    cases i with
    | zero =>
      obtain rfl : q = p := by simpa using here
      rw [VowelSystem.nucleusAt, if_pos vowel]
      exact ⟨_, List.mem_cons_self, by simp⟩
    | succ i =>
      obtain ⟨n, hn, first, last⟩ := ih (i := i) (by simpa using here)
      exact ⟨n, List.mem_append_right _ hn, by omega⟩

/-- No phoneme is in two nuclei. -/
theorem Nucleus.Follow.eq_of_holds {place stop i : Nat} {m n : Nucleus}
    (h : Nucleus.Follow place stop nuclei) (hm : m ∈ nuclei) (hn : n ∈ nuclei)
    (inM : m.start ≤ i ∧ i < m.stop) (inN : n.start ≤ i ∧ i < n.stop) : m = n := by
  obtain ⟨j, first⟩ := List.getElem?_of_mem hm
  obtain ⟨k, second⟩ := List.getElem?_of_mem hn
  rcases Nat.lt_trichotomy j k with before | rfl | after
  · have apart := h.stop_le_start before first second
    omega
  · exact Option.some.inj (first.symm.trans second)
  · have apart := h.stop_le_start after second first
    omega

/-- The nuclei of a word are its diphthongs and the vowels outside of them, left to right. -/
theorem nuclei_are_maximal (v : VowelSystem) (ps : List Phoneme) :
    (v.nuclei ps).Pairwise (fun m n => m.start < n.start ∧ m.stop ≤ n.start) ∧
    (∀ n ∈ v.nuclei ps,
      (∃ p q, ps[n.start]? = some p ∧ ps[n.start + 1]? = some q ∧ n.stop = n.start + 2 ∧
        p.OpensDiphthong q) ∨
      ∃ p, ps[n.start]? = some p ∧ n.stop = n.start + 1 ∧ v.isVowel p.key = true) ∧
    (∀ i p, ps[i]? = some p → v.isVowel p.key = true →
      ∃! n, n ∈ v.nuclei ps ∧ n.start ≤ i ∧ i < n.stop) ∧
    (∀ n ∈ v.nuclei ps, n.stop = n.start + 1 → ∀ p q, ps[n.start]? = some p →
      ps[n.start + 1]? = some q → ¬p.OpensDiphthong q) ∧
    ∀ i p q, ps[i]? = some p → ps[i + 1]? = some q → p.OpensDiphthong q →
      ∃ n ∈ v.nuclei ps, n.stop = n.start + 2 ∧ (n.start = i ∨ n.start + 1 = i) := by
  have follow := follow_nuclei v ps
  refine ⟨?ordered, ?filled, ?covered, ?alone, ?halves⟩
  case ordered =>
    refine follow.next.imp_of_mem fun {m n} hm _ apart => ?_
    have filled := (follow.inside m hm).2.1
    omega
  case filled =>
    intro n hn
    rcases (fits_of_mem_nuclei hn).cases_of_nuclei with two | ⟨p, here, one, vowel, _⟩
    · exact .inl two
    · exact .inr ⟨p, here, one, vowel⟩
  case covered =>
    intro i p here vowel
    obtain ⟨n, hn, first, last⟩ := exists_nucleusFrom_of_isVowel 0 here vowel
    rw [Nat.zero_add] at first last
    refine ⟨n, ⟨hn, first, last⟩, fun m ⟨hm, inM⟩ => ?_⟩
    exact follow.eq_of_holds hm hn inM ⟨first, last⟩
  case alone =>
    intro n hn one p q here next
    rcases (fits_of_mem_nuclei hn).cases_of_nuclei with ⟨_, _, _, _, two, _⟩ | ⟨r, at_, _, _, hiatus⟩
    · omega
    · obtain rfl : r = p := Option.some.inj (at_.symm.trans here)
      exact hiatus q next
  case halves =>
    intro i p q first second opens
    have found := exists_nucleusFrom_of_isDiphthong (v := v) 0 first second opens
    rwa [Nat.zero_add] at found

-- The pairs `ae` and `ei` of the row `aei` overlap, and the first of them is taken.
example : VowelSystem.nuclei {} (phonemes DigraphTable.syllables ['a', 'e', 'i', 'b', 'o']) =
    [⟨0, 2⟩, ⟨2, 3⟩, ⟨4, 5⟩] := by decide +kernel

end SoundLaw
