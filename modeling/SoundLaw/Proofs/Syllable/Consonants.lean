/-
  SoundLaw.Proofs.Syllable.Consonants

  How the consonants between two vowels are shared out. The boundary of two syllables cuts the run
  of phonemes between their nuclei in two halves of the same length, where an odd one goes to the
  syllable on the right. Only three consonants can be cut the other way round: the last two of
  them stay together if they may begin a syllable, and are parted if not (`isShared_boundary`). The
  halves are what the analysis reports as the coda of the one syllable and as the onset of the other
  one.
-/
import SoundLaw.Proofs.Syllable.Reanalysis

namespace SoundLaw

variable {v : VowelSystem} {ps : List Phoneme} {m n : Nucleus}

/-! ## One run of consonants -/

/-- A run of consonants is shared out between the coda of one syllable and the onset of the next
    one: evenly, except that of three consonants two go where the last two of them belong. -/
structure IsShared (run coda onset : List Phoneme) : Prop where
  join : coda ++ onset = run
  opens : 1 ≤ run.length → 1 ≤ onset.length
  closes : 2 ≤ run.length → 1 ≤ coda.length
  even : onset.length = coda.length ∨ onset.length = coda.length + 1 ∨
    run.length = 3 ∧ coda.length = onset.length + 1
  cluster : run.length = 3 →
    (onset.length = 2 ↔ (run.drop 1).flatMap Phoneme.key ∈ onsetClusters)

theorem isOnset_iff {cluster : List Phoneme} :
    isOnset cluster = true ↔ cluster.flatMap Phoneme.key ∈ onsetClusters := by
  rw [isOnset, List.contains_iff_mem]

/-- The phonemes between two nuclei. -/
def runBetween (ps : List Phoneme) (m n : Nucleus) : List Phoneme :=
  (ps.take n.start).drop m.stop

theorem length_runBetween (inside : n.start ≤ ps.length) :
    (runBetween ps m n).length = n.start - m.stop := by
  rw [runBetween, List.length_drop, List.length_take, Nat.min_eq_left inside]

/-- The last two of three consonants. -/
theorem drop_one_runBetween (three : n.start - m.stop = 3) :
    (runBetween ps m n).drop 1 = (ps.drop (m.stop + 1)).take 2 := by
  have two : n.start - (m.stop + 1) = 2 := by omega
  rw [runBetween, List.drop_drop, List.drop_take, two]

/-- How many of the consonants between two nuclei come before the boundary: one half of them, and of
    three consonants two if the last two do not belong together. -/
theorem boundary_eq_add (ps : List Phoneme) (apart : m.stop ≤ n.start) :
    boundary ps m n = m.stop +
      if n.start - m.stop = 3 ∧ isOnset ((runBetween ps m n).drop 1) = false then 2
      else (n.start - m.stop) / 2 := by
  rw [boundary]
  -- By the number of phonemes between the nuclei.
  split
  · next none =>
    have together : n.start = m.stop := by omega
    simp [together]
  · next one => simp [one]
  · next two => simp [two]
  · next three =>
    rw [drop_one_runBetween three]
    cases isOnset ((ps.drop (m.stop + 1)).take 2) <;> simp [three]
  · next notThree => rw [if_neg fun three => notThree three.1]

/-- The boundary shares out what is between the nuclei. -/
theorem isShared_boundary (apart : m.stop ≤ n.start) (inside : n.start ≤ ps.length) :
    IsShared (runBetween ps m n) ((ps.take (boundary ps m n)).drop m.stop)
      ((ps.take n.start).drop (boundary ps m n)) := by
  have bounds := le_boundary_and_le ps apart
  have place := boundary_eq_add ps apart
  have run := length_runBetween (m := m) inside
  have coda : ((ps.take (boundary ps m n)).drop m.stop).length = boundary ps m n - m.stop := by
    rw [List.length_drop, List.length_take, Nat.min_eq_left (by omega)]
  have onset : ((ps.take n.start).drop (boundary ps m n)).length = n.start - boundary ps m n := by
    rw [List.length_drop, List.length_take, Nat.min_eq_left inside]
  refine ⟨?join, ?opens, ?closes, ?even, ?cluster⟩
  case join =>
    have first : (ps.take (boundary ps m n)).drop m.stop =
        (runBetween ps m n).take (boundary ps m n - m.stop) := by
      rw [runBetween, List.take_drop, List.take_take]
      congr 2
      omega
    have second : (ps.take n.start).drop (boundary ps m n) =
        (runBetween ps m n).drop (boundary ps m n - m.stop) := by
      rw [runBetween, List.drop_drop]
      congr 1
      omega
    rw [first, second, List.take_append_drop]
  case opens =>
    rw [run, onset]
    split at place <;> omega
  case closes =>
    rw [run, coda]
    split at place <;> omega
  case even =>
    rw [run, coda, onset]
    split at place <;> omega
  case cluster =>
    rw [run, onset, ← isOnset_iff]
    intro three
    cases together : isOnset ((runBetween ps m n).drop 1) with
    | true =>
      rw [together, if_neg fun divided => Bool.noConfusion divided.2] at place
      simp only [iff_true]
      omega
    | false =>
      rw [if_pos ⟨three, together⟩] at place
      simp only [Bool.false_eq_true, iff_false]
      omega

/-! ## Onsets and codas of the parts of a word -/

section

variable {part : Part} {start stop : Nat}

/-- The onset of a syllable is spelled by the phonemes from its start to its nucleus. -/
theorem onset_ofPart (run : part.IsRun ps start stop n) (first : start ≤ n.start)
    (last : n.start ≤ stop) (isStressed : Bool) :
    (Syllable.ofPart part isStressed).onset =
      ((ps.take n.start).drop start).flatMap Phoneme.text := by
  have cut : part.phonemes.take (n.start - start) = (ps.take n.start).drop start := by
    rw [run.run, List.take_take, Nat.min_eq_left (by omega), List.take_drop]
    congr 2
    omega
  rw [Syllable.ofPart, run.nucleus, ← cut]

/-- The coda of a syllable is spelled by the phonemes from its nucleus to its end. -/
theorem coda_ofPart (run : part.IsRun ps start stop n) (first : start ≤ n.stop)
    (isStressed : Bool) :
    (Syllable.ofPart part isStressed).coda =
      ((ps.take stop).drop n.stop).flatMap Phoneme.text := by
  have cut : part.phonemes.drop (n.stop - start) = (ps.take stop).drop n.stop := by
    rw [run.run, ← List.drop_take, List.drop_drop]
    congr 1
    omega
  rw [Syllable.ofPart, run.nucleus, ← cut]

end

/-! ## Successive syllables -/

section

variable {word : Text} {compound : Bool} {i : Nat}

/-- The boundary of two successive parts of a word is that of their nuclei. -/
theorem isRun_of_successive {nuclei : List Nucleus} {part other : Part}
    (read : phonemes (DigraphTable.forSyllables compound) word = ps) (found : v.nuclei ps = nuclei)
    (here : (v.divide word compound)[i]? = some part)
    (next : (v.divide word compound)[i + 1]? = some other) :
    ∃ m n start stop, nuclei[i]? = some m ∧ nuclei[i + 1]? = some n ∧ m.stop ≤ n.start ∧
      n.stop ≤ stop ∧ stop ≤ ps.length ∧ start ≤ m.stop ∧ n.start ≤ n.stop ∧
      part.IsRun ps start (boundary ps m n) m ∧ other.IsRun ps (boundary ps m n) stop n := by
  have many : 2 ≤ nuclei.length := by
    by_contra few
    rw [divide_of_few (by rw [read, found]; omega)] at next
    exact absurd next (by simp)
  obtain ⟨start, cut, m, _, boundary₁, firstNucleus, _, alone₁, run₁⟩ :=
    isSyllable_of_getElem?_divide read found many here
  obtain ⟨cut', stop, n, boundary₂, _, secondNucleus, room, alone₂, run₂⟩ :=
    isSyllable_of_getElem?_divide read found many next
  have between : (boundaries ps nuclei)[i + 1]? = some (boundary ps m n) :=
    getElem?_boundaries_between firstNucleus secondNucleus
  obtain rfl : cut = boundary ps m n := Option.some.inj (boundary₁.symm.trans between)
  obtain rfl : cut' = boundary ps m n := Option.some.inj (boundary₂.symm.trans between)
  have follow : Nucleus.Follow 0 ps.length nuclei := found ▸ follow_nuclei v ps
  have apart := follow.stop_le_start (Nat.lt_succ_self i) firstNucleus secondNucleus
  have filled₁ := alone₁.first
  have filled₂ := alone₁.filled
  exact ⟨m, n, start, stop, firstNucleus, secondNucleus, apart, alone₂.last, room, by omega,
    Nat.le_of_lt alone₂.filled, run₁, run₂⟩

/-- A run of phonemes of a word has as many phonemes as its text has by itself. -/
theorem length_phonemes_run (table : DigraphTable) (word : Text) (start stop : Nat) :
    (phonemes table
      ((((phonemes table word).take stop).drop start).flatMap Phoneme.text)).length =
        (((phonemes table word).take stop).drop start).length := by
  rw [List.drop_take]
  conv_rhs => rw [phonemes_run table word start (stop - start), List.length_map]

/-- The consonants between two successive syllables are shared out between the coda of the first one
    and the onset of the second one. -/
theorem analyse_shares_consonants {s t : Syllable}
    (first : (v.analyse word compound)[i]? = some s)
    (second : (v.analyse word compound)[i + 1]? = some t) :
    ∃ ps m n coda onset, phonemes? (DigraphTable.forSyllables compound) word = .ok ps ∧
      (v.nuclei ps)[i]? = some m ∧ (v.nuclei ps)[i + 1]? = some n ∧
      s.nucleus = m.text ps ∧ t.nucleus = n.text ps ∧
      IsShared (runBetween ps m n) coda onset ∧
      s.coda = coda.flatMap Phoneme.text ∧ t.onset = onset.flatMap Phoneme.text ∧
      (phonemes (DigraphTable.forSyllables compound) s.coda).length = coda.length ∧
      (phonemes (DigraphTable.forSyllables compound) t.onset).length = onset.length := by
  rw [getElem?_analyse, Option.map_eq_some_iff] at first second
  obtain ⟨part, here, rfl⟩ := first
  obtain ⟨other, next, rfl⟩ := second
  obtain ⟨m, n, start, stop, hm, hn, apart, last, room, opened, filled, run₁, run₂⟩ :=
    isRun_of_successive rfl rfl here next
  have bounds := le_boundary_and_le
    (phonemes (DigraphTable.forSyllables compound) word) apart
  have spelled₁ := (isSpelled_ofPart (v := v) rfl rfl here
    (stressed? ((v.divide word compound).map (·.text.weight)) == some i)).2
  have spelled₂ := (isSpelled_ofPart (v := v) rfl rfl next
    (stressed? ((v.divide word compound).map (·.text.weight)) == some (i + 1))).2
  rw [hm] at spelled₁
  rw [hn] at spelled₂
  refine ⟨_, m, n, _, _, phonemes?_eq_ok (isPlain_forSyllables compound) word, hm, hn, spelled₁,
    spelled₂, isShared_boundary apart (by omega), coda_ofPart run₁ opened _,
    onset_ofPart run₂ bounds.2 (by omega) _, ?_, ?_⟩
  · rw [coda_ofPart run₁ opened, length_phonemes_run]
  · rw [onset_ofPart run₂ bounds.2 (by omega), length_phonemes_run]

end

-- Of the three consonants of `mandhra`, the last two may begin a syllable.
theorem analyse_shares_lenitedCluster :
    let word : Text := ['m', 'a', 'n', 'd', 'h', 'r', 'a']
    ∃ s t, (VowelSystem.analyse {} word false)[0]? = some s ∧
      (VowelSystem.analyse {} word false)[1]? = some t ∧
      ∃ ps m n coda onset, phonemes? (DigraphTable.forSyllables false) word = .ok ps ∧
        (VowelSystem.nuclei {} ps)[0]? = some m ∧ (VowelSystem.nuclei {} ps)[1]? = some n ∧
        s.nucleus = m.text ps ∧ t.nucleus = n.text ps ∧
        IsShared (runBetween ps m n) coda onset ∧
        s.coda = coda.flatMap Phoneme.text ∧ t.onset = onset.flatMap Phoneme.text ∧
        (phonemes (DigraphTable.forSyllables false) s.coda).length = coda.length ∧
        (phonemes (DigraphTable.forSyllables false) t.onset).length = onset.length := by
  intro word
  have first : (VowelSystem.analyse {} word false)[0]? = some
      { text := ['m', 'a', 'n'], onset := ['m'], nucleus := ['a'], coda := ['n'], weight := .heavy,
        isClosed := true, isStressed := true } := by decide +kernel
  have second : (VowelSystem.analyse {} word false)[1]? = some
      { text := ['d', 'h', 'r', 'a'], onset := ['d', 'h', 'r'], nucleus := ['a'], coda := [],
        weight := .light, isClosed := false, isStressed := false } := by decide +kernel
  exact ⟨_, _, first, second, analyse_shares_consonants first second⟩

end SoundLaw
