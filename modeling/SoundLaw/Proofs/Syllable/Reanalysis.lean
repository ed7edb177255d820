/-
  SoundLaw.Proofs.Syllable.Reanalysis

  A syllable analysed by itself. The phonemes of a syllable are read off its text as they are read
  off the word, with other offsets (`phonemes_run`), and the nuclei of a row that is cut where no
  nucleus is cut are those of its two halves (`nucleiFrom_append`). So the nucleus of a syllable is
  the only one that is found in it by itself, whatever the boundary rules leave around it, and the
  syllable comes back as it was, without its stress.
-/
import SoundLaw.Proofs.Syllable.Partition

namespace SoundLaw

variable {v : VowelSystem}

/-! ## Nuclei of a run -/

theorem nucleiFrom_map_moved (place n : Nat) (ps : List Phoneme) :
    v.nucleiFrom place (ps.map (Phoneme.moved n)) = v.nucleiFrom place ps := by
  -- A diphthong is told by texts and a vowel by its key, and neither has moved.
  induction place, ps using nuclei_scan with
  | done place => rfl
  | diphthong place p q ps opens ih =>
    rw [nucleiFrom_of_isDiphthong opens, ← ih]
    exact nucleiFrom_of_isDiphthong opens
  | hiatus place p ps apart ih =>
    rw [nucleiFrom_of_hiatus apart, ← ih]
    refine nucleiFrom_of_hiatus fun q hq => ?_
    rw [List.head?_map, Option.mem_def, Option.map_eq_some_iff] at hq
    obtain ⟨q, hq, rfl⟩ := hq
    exact apart q hq

/-- A nucleus at a place that is larger by `n`. -/
def Nucleus.moved (n : Nat) (m : Nucleus) : Nucleus := ⟨n + m.start, n + m.stop⟩

theorem nucleiFrom_add (n place : Nat) (ps : List Phoneme) :
    v.nucleiFrom (n + place) ps = (v.nucleiFrom place ps).map (Nucleus.moved n) := by
  induction place, ps using nuclei_scan with
  | done place => rfl
  | diphthong place p q ps opens ih =>
    rw [nucleiFrom_of_isDiphthong opens, nucleiFrom_of_isDiphthong opens, List.map_cons, ← ih]
    rfl
  | hiatus place p ps apart ih =>
    have here : v.nucleusAt (n + place) p = (v.nucleusAt place p).map (Nucleus.moved n) := by
      rw [VowelSystem.nucleusAt, VowelSystem.nucleusAt]
      split <;> rfl
    rw [nucleiFrom_of_hiatus apart, nucleiFrom_of_hiatus apart, List.map_append, ← here, ← ih]
    rfl

/-- Where no nucleus is cut, the nuclei of a row are those of the two halves. -/
theorem nucleiFrom_append {place cut : Nat} {ps qs : List Phoneme} (here : place + ps.length = cut)
    (whole : ∀ n ∈ v.nucleiFrom place (ps ++ qs), n.stop ≤ cut ∨ cut ≤ n.start) :
    v.nucleiFrom place (ps ++ qs) = v.nucleiFrom place ps ++ v.nucleiFrom cut qs := by
  induction place, ps using nuclei_scan with
  | done place =>
    rw [← here, List.length_nil, Nat.add_zero]
    rfl
  | diphthong place p q ps opens ih =>
    have later : place + 2 + ps.length = cut := by
      simp only [List.length_cons] at here
      omega
    rw [List.cons_append, List.cons_append, nucleiFrom_of_isDiphthong opens] at whole ⊢
    rw [nucleiFrom_of_isDiphthong opens, List.cons_append,
      ih later (List.forall_mem_cons.1 whole).2]
  | hiatus place p ps apart ih =>
    have later : place + 1 + ps.length = cut := by
      simp only [List.length_cons] at here
      omega
    have apart' : ∀ q ∈ (ps ++ qs).head?, ¬isDiphthong (p.text ++ q.text) = true := by
      intro q hq diphthong
      cases ps with
      | cons r ps => exact apart q hq diphthong
      | nil =>
        -- A last phoneme of `ps` that spelled a diphthong with the first one of `qs` would be cut off
        -- from the second half of its nucleus.
        obtain ⟨qs, rfl⟩ := List.head?_eq_some_iff.1 (show qs.head? = some q from hq)
        rw [List.singleton_append, nucleiFrom_of_isDiphthong diphthong] at whole
        have crossing := whole _ List.mem_cons_self
        simp only [List.length_nil] at later
        dsimp only at crossing
        omega
    rw [List.cons_append, nucleiFrom_of_hiatus apart'] at whole ⊢
    rw [nucleiFrom_of_hiatus apart, List.append_assoc,
      ih later fun n hn => whole n (List.mem_append_right _ hn)]

/-- The same for a row that is cut at a place. -/
theorem nucleiFrom_take_append_drop {cut : Nat} {ps : List Phoneme} (inside : cut ≤ ps.length)
    (whole : ∀ n ∈ v.nuclei ps, n.stop ≤ cut ∨ cut ≤ n.start) :
    v.nuclei ps = v.nuclei (ps.take cut) ++ v.nucleiFrom cut (ps.drop cut) := by
  have here : 0 + (ps.take cut).length = cut := by
    rw [List.length_take, Nat.min_eq_left inside, Nat.zero_add]
  rw [VowelSystem.nuclei, ← List.take_append_drop cut ps] at whole
  rw [VowelSystem.nuclei, VowelSystem.nuclei, ← nucleiFrom_append here whole,
    List.take_append_drop]

/-- Nuclei that are all the same one are just that one, since they follow one another. -/
theorem Nucleus.Follow.eq_singleton {place stop : Nat} {nuclei : List Nucleus} {n : Nucleus}
    (h : Nucleus.Follow place stop nuclei) (there : n ∈ nuclei) (only : ∀ m ∈ nuclei, m = n) :
    nuclei = [n] := by
  cases nuclei with
  | nil => exact absurd there (by simp)
  | cons m others =>
    obtain rfl := only m List.mem_cons_self
    cases others with
    | nil => rfl
    | cons m' others =>
      obtain rfl := only m' (by simp)
      have apart := (List.pairwise_cons.1 h.next).1 m' List.mem_cons_self
      have filled := (h.inside m' List.mem_cons_self).2.1
      omega

section Alone

variable {ps : List Phoneme} {nuclei : List Nucleus} {i start stop : Nat} {n : Nucleus}
  (found : v.nuclei ps = nuclei) (listed : nuclei[i]? = some n) (room : stop ≤ ps.length)
  (alone : n.IsAlone nuclei i start stop)

include listed alone in
theorem eq_or_outside : ∀ m ∈ nuclei, m = n ∨ m.stop ≤ start ∨ stop ≤ m.start := by
  intro m hm
  obtain ⟨j, hj⟩ := List.mem_iff_getElem?.1 hm
  by_cases same : j = i
  · subst same
    exact Or.inl (Option.some.inj (hj.symm.trans listed))
  · exact Or.inr (alone.others j same m hj)

include found listed room alone

/-- The run where a nucleus is alone is cut out of the word without cutting a nucleus. -/
theorem nuclei_eq_append : nuclei = v.nuclei (ps.take start) ++
    v.nucleiFrom start ((ps.drop start).take (stop - start)) ++
      v.nucleiFrom stop (ps.drop stop) := by
  have outside := eq_or_outside listed alone
  have first := alone.first
  have filled := alone.filled
  have last := alone.last
  -- The first cut is at the end of the run, and the second one, in what is before it, at its start.
  have atStop : v.nuclei ps = v.nuclei (ps.take stop) ++ v.nucleiFrom stop (ps.drop stop) := by
    refine nucleiFrom_take_append_drop room fun m hm => ?_
    rcases outside m (found ▸ hm) with rfl | before | after
    · exact Or.inl last
    · exact Or.inl (by omega)
    · exact Or.inr after
  have atStart : v.nuclei (ps.take stop) = v.nuclei ((ps.take stop).take start) ++
      v.nucleiFrom start ((ps.take stop).drop start) := by
    refine nucleiFrom_take_append_drop (by rw [List.length_take]; omega) fun m hm => ?_
    have member : m ∈ nuclei := by
      rw [← found, atStop]
      exact List.mem_append_left _ hm
    rcases outside m member with rfl | before | after
    · exact Or.inr first
    · exact Or.inl before
    · exact Or.inr (by omega)
  rw [List.take_take, Nat.min_eq_left (by omega), List.drop_take] at atStart
  rw [← found, atStop, atStart]

/-- A nucleus that is alone in a run is the only one that is found there. -/
theorem nuclei_run :
    v.nuclei ((ps.drop start).take (stop - start)) = [⟨n.start - start, n.stop - start⟩] := by
  have outside := eq_or_outside listed alone
  have split := nuclei_eq_append found listed room alone
  have first := alone.first
  have filled := alone.filled
  have last := alone.last
  generalize inRun : v.nucleiFrom start ((ps.drop start).take (stop - start)) = here at split
  have follow : Nucleus.Follow start stop here := by
    have length : start + ((ps.drop start).take (stop - start)).length = stop := by
      rw [List.length_take, List.length_drop]
      omega
    have follow := follow_nucleiFrom v start ((ps.drop start).take (stop - start))
    rwa [length, inRun] at follow
  have only : ∀ m ∈ here, m = n := by
    intro m hm
    have inside := follow.inside m hm
    have member : m ∈ nuclei := by
      rw [split]
      exact List.mem_append_left _ (List.mem_append_right _ hm)
    rcases outside m member with same | before | after
    · exact same
    · omega
    · omega
  have there : n ∈ here := by
    have member := List.mem_of_getElem? listed
    rw [split, List.mem_append, List.mem_append] at member
    rcases member with (before | within) | after
    · have inside := (follow_nucleiFrom v 0 (ps.take start)).inside n before
      rw [List.length_take] at inside
      omega
    · exact within
    · have inside := (follow_nucleiFrom v stop (ps.drop stop)).inside n after
      omega
  -- Counted from the start of the run, the nucleus stands where the syllable has it.
  have counted := nucleiFrom_add (v := v) start 0 ((ps.drop start).take (stop - start))
  rw [Nat.add_zero, inRun, follow.eq_singleton there only, eq_comm, List.map_eq_singleton_iff]
    at counted
  obtain ⟨m, single, rfl⟩ := counted
  rw [VowelSystem.nuclei, single]
  simp [Nucleus.moved]

end Alone

/-! ## Syllables by themselves -/

/-- A part of a word that is read off its text: its phonemes are those of the text, the offsets
    apart, and its nucleus is all that is found there. -/
structure Part.IsReadAlone (v : VowelSystem) (compound : Bool) (part : Part) : Prop where
  moved : ∃ n, part.phonemes =
    (SoundLaw.phonemes (DigraphTable.forSyllables compound) part.text).map (Phoneme.moved n)
  nuclei : v.nuclei (SoundLaw.phonemes (DigraphTable.forSyllables compound) part.text) =
    part.nucleus.toList

theorem isReadAlone_of_mem_divide {word : Text} {compound : Bool} {part : Part}
    (h : part ∈ v.divide word compound) : part.IsReadAlone v compound := by
  generalize read : phonemes (DigraphTable.forSyllables compound) word = ps
  generalize found : v.nuclei ps = nuclei
  rcases Nat.lt_or_ge nuclei.length 2 with few | many
  · -- The only part is the word itself.
    rw [divide_of_few (by rw [read, found]; exact few), List.mem_singleton] at h
    subst h
    refine ⟨⟨0, ?_⟩, ?_⟩
    · have still : Phoneme.moved 0 = id := by
        funext p
        simp [Phoneme.moved]
      rw [still, List.map_id]
    · rw [read, found]
      match nuclei, few with
      | [], _ => rfl
      | [n], _ => rfl
  · obtain ⟨i, hi⟩ := List.mem_iff_getElem?.1 h
    obtain ⟨start, stop, n, _, _, listed, room, alone, run⟩ :=
      isSyllable_of_getElem?_divide read found many hi
    have moved := phonemes_run (DigraphTable.forSyllables compound) word start (stop - start)
    rw [read, ← run.run, ← run.text] at moved
    refine ⟨⟨_, moved⟩, ?_⟩
    rw [run.nucleus, Option.toList_some, ← nuclei_run found listed room alone, ← run.run, moved,
      VowelSystem.nuclei, VowelSystem.nuclei, nucleiFrom_map_moved]

/-- A part that is read off its text is the syllable that the text is analysed to, without stress. -/
theorem analyse_of_isReadAlone {compound : Bool} {part : Part} (h : part.IsReadAlone v compound) :
    v.analyse part.text compound = [Syllable.ofPart part false] := by
  obtain ⟨⟨offset, moved⟩, nuclei⟩ := h
  have few : (v.nuclei (phonemes (DigraphTable.forSyllables compound) part.text)).length < 2 := by
    rw [nuclei]
    cases part.nucleus <;> simp
  rw [VowelSystem.analyse, divide_of_few few, nuclei]
  obtain ⟨text, ps, nucleus⟩ := part
  dsimp only at moved ⊢
  subst moved
  cases nucleus with
  | none => rfl
  | some n => simp [Syllable.ofPart, stressed?, ← List.map_take, ← List.map_drop,
      flatMap_text_map_moved]

/-- Each syllable of a word, analysed by itself, is one syllable: the same, and unstressed. -/
theorem analyse_syllable {word : Text} {compound : Bool} {s : Syllable}
    (h : s ∈ v.analyse word compound) :
    v.analyse s.text compound = [{ s with isStressed := false }] := by
  obtain ⟨i, hi⟩ := List.mem_iff_getElem?.1 h
  rw [getElem?_analyse, Option.map_eq_some_iff] at hi
  obtain ⟨part, here, rfl⟩ := hi
  rw [text_ofPart, analyse_of_isReadAlone (isReadAlone_of_mem_divide (List.mem_of_getElem? here))]
  simp only [Syllable.ofPart]

/-- The stressed syllable of `Anthauriel`, with a digraph of three letters and a diphthong. -/
def stressedSyllable : Syllable where
  text := ['n', 't', 'h', 'a', 'u']
  onset := ['n', 't', 'h']
  nucleus := ['a', 'u']
  coda := []
  weight := .heavy
  isClosed := false
  isStressed := true

theorem analyse_stressedSyllable :
    stressedSyllable ∈ VowelSystem.analyse ⟨false, false⟩
        ['A', 'n', 't', 'h', 'a', 'u', 'r', 'i', 'e', 'l'] false ∧
      VowelSystem.analyse ⟨false, false⟩ stressedSyllable.text false =
        [{ stressedSyllable with isStressed := false }] := by
  have member : stressedSyllable ∈ VowelSystem.analyse ⟨false, false⟩
      ['A', 'n', 't', 'h', 'a', 'u', 'r', 'i', 'e', 'l'] false := by decide +kernel
  exact ⟨member, analyse_syllable member⟩

end SoundLaw
