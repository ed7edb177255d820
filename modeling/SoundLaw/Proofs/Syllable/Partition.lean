/-
  SoundLaw.Proofs.Syllable.Partition

  The syllables of a word partition its phonemes, and each has one nucleus. A boundary lies between
  the two nuclei that it parts (`le_boundary_and_le`), whatever the number of consonants there. So
  the boundaries ascend, the phonemes between two of them are never none, and the nucleus there
  is the only one.

  The nuclei are found in one scan of the phonemes. What holds of them all is proved along the scan
  (`nuclei_scan`), which has a case for a diphthong and one for any other phoneme.
-/
import SoundLaw.Proofs.Phoneme.Slice
import SoundLaw.Syllable

namespace SoundLaw

variable {v : VowelSystem} {ps : List Phoneme} {nuclei : List Nucleus}

/-! ## The scan for nuclei -/

/-- The nucleus that a phoneme is by itself, at a place of the word; none if it is no vowel. -/
def VowelSystem.nucleusAt (v : VowelSystem) (place : Nat) (p : Phoneme) : List Nucleus :=
  if v.isVowel p.key then [⟨place, place + 1⟩] else []

section

variable {place : Nat} {p q : Phoneme}

theorem VowelSystem.nucleusAt_cases (v : VowelSystem) (place : Nat) (p : Phoneme) :
    v.isVowel p.key = true ∧ v.nucleusAt place p = [⟨place, place + 1⟩] ∨
      v.isVowel p.key = false ∧ v.nucleusAt place p = [] := by
  rw [VowelSystem.nucleusAt]
  cases v.isVowel p.key <;> simp

/-- The scan passes two phonemes at a diphthong. -/
theorem nucleiFrom_of_isDiphthong (diphthong : isDiphthong (p.text ++ q.text) = true) :
    v.nucleiFrom place (p :: q :: ps) = ⟨place, place + 2⟩ :: v.nucleiFrom (place + 2) ps := by
  rw [VowelSystem.nucleiFrom, if_pos diphthong]

/-- The scan passes one phoneme anywhere else. -/
theorem nucleiFrom_of_hiatus
    (hiatus : ∀ q ∈ ps.head?, ¬isDiphthong (p.text ++ q.text) = true) :
    v.nucleiFrom place (p :: ps) = v.nucleusAt place p ++ v.nucleiFrom (place + 1) ps := by
  cases ps with
  | nil =>
    rw [VowelSystem.nucleusAt, VowelSystem.nucleiFrom, VowelSystem.nucleiFrom, List.append_nil]
  | cons q ps =>
    rw [VowelSystem.nucleiFrom, if_neg (hiatus q rfl), VowelSystem.nucleusAt]
    split <;> rfl

/-- What holds along the scan: at the end of the phonemes, from a diphthong on if it holds behind
    both of its phonemes, and from any other phoneme on if it holds behind this one. -/
@[elab_as_elim]
theorem nuclei_scan {motive : Nat → List Phoneme → Prop} (done : ∀ place, motive place [])
    (diphthong : ∀ place p q ps, isDiphthong (p.text ++ q.text) = true →
      motive (place + 2) ps → motive place (p :: q :: ps))
    (hiatus : ∀ place p ps, (∀ q ∈ ps.head?, ¬isDiphthong (p.text ++ q.text) = true) →
      motive (place + 1) ps → motive place (p :: ps))
    (place : Nat) (ps : List Phoneme) : motive place ps := by
  fun_induction VowelSystem.nucleiFrom {} place ps with
  | case1 place => exact done place
  | case2 place p => exact hiatus place p [] (by simp) (done _)
  | case3 place p => exact hiatus place p [] (by simp) (done _)
  | case4 place p q ps opens ih => exact diphthong place p q ps opens ih
  | case5 place p q ps apart _ ih => exact hiatus place p (q :: ps) (by simpa using apart) ih
  | case6 place p q ps apart _ ih => exact hiatus place p (q :: ps) (by simpa using apart) ih

end

/-! ## Nuclei -/

/-- Nuclei have phonemes in them, and follow one another within a word. -/
structure Nucleus.Follow (place stop : Nat) (nuclei : List Nucleus) : Prop where
  inside : ∀ n ∈ nuclei, place ≤ n.start ∧ n.start < n.stop ∧ n.stop ≤ stop
  next : nuclei.Pairwise fun m n => m.stop ≤ n.start

theorem Nucleus.Follow.cons {place start next stop : Nat} (first : place ≤ start)
    (filled : start < next) (inside : next ≤ stop) (h : Nucleus.Follow next stop nuclei) :
    Nucleus.Follow place stop (⟨start, next⟩ :: nuclei) where
  inside := by
    refine List.forall_mem_cons.2 ⟨⟨first, filled, inside⟩, fun n hn => ?_⟩
    have later := h.inside n hn
    omega
  next := List.pairwise_cons.2 ⟨fun n hn => (h.inside n hn).1, h.next⟩

theorem Nucleus.Follow.skip {place next stop : Nat} (before : place ≤ next)
    (h : Nucleus.Follow next stop nuclei) : Nucleus.Follow place stop nuclei where
  inside n hn := by
    have later := h.inside n hn
    omega
  next := h.next

theorem follow_nucleiFrom (v : VowelSystem) (place : Nat) (ps : List Phoneme) :
    Nucleus.Follow place (place + ps.length) (v.nucleiFrom place ps) := by
  induction place, ps using nuclei_scan with
  | done place => exact ⟨by simp [VowelSystem.nucleiFrom], List.Pairwise.nil⟩
  | diphthong place p q ps opens ih =>
    have length : place + (p :: q :: ps).length = place + 2 + ps.length := by
      simp only [List.length_cons]
      omega
    rw [nucleiFrom_of_isDiphthong opens, length]
    exact Nucleus.Follow.cons (Nat.le_refl _) (by omega) (by omega) ih
  | hiatus place p ps apart ih =>
    have length : place + (p :: ps).length = place + 1 + ps.length := by
      simp only [List.length_cons]
      omega
    rw [nucleiFrom_of_hiatus apart, length]
    rcases v.nucleusAt_cases place p with ⟨_, here⟩ | ⟨_, here⟩
    · rw [here]
      exact Nucleus.Follow.cons (Nat.le_refl _) (by omega) (by omega) ih
    · rw [here]
      exact Nucleus.Follow.skip (by omega) ih

theorem follow_nuclei (v : VowelSystem) (ps : List Phoneme) :
    Nucleus.Follow 0 ps.length (v.nuclei ps) := by
  have follow := follow_nucleiFrom v 0 ps
  rwa [Nat.zero_add] at follow

/-- A phoneme that spells a diphthong with the next one belongs to a nucleus of two phonemes: it
    opens this one, or ends it. -/
theorem exists_nucleusFrom_of_isDiphthong (place : Nat) {i : Nat} {p q : Phoneme}
    (first : ps[i]? = some p) (second : ps[i + 1]? = some q)
    (diphthong : isDiphthong (p.text ++ q.text) = true) :
    ∃ n ∈ v.nucleiFrom place ps, n.stop = n.start + 2 ∧
      (n.start = place + i ∨ n.start + 1 = place + i) := by
  induction place, ps using nuclei_scan generalizing i with
  | done place => simp at first
  | diphthong place r s ps opens ih =>
    rw [nucleiFrom_of_isDiphthong opens]
    -- The diphthong that opens the row takes the places `0` and `1`.
    match i with
    | 0 => exact ⟨_, List.mem_cons_self, rfl, Or.inl rfl⟩
    | 1 => exact ⟨_, List.mem_cons_self, rfl, Or.inr rfl⟩
    | i + 2 =>
      obtain ⟨n, hn, two, at_⟩ := ih (i := i) (by simpa using first) (by simpa using second)
      exact ⟨n, List.mem_cons_of_mem _ hn, two, by omega⟩
  | hiatus place r ps apart ih =>
    rw [nucleiFrom_of_hiatus apart]
    match i with
    | 0 =>
      obtain rfl : r = p := by simpa using first
      exact absurd diphthong (apart q (by simpa [List.head?_eq_getElem?] using second))
    | i + 1 =>
      obtain ⟨n, hn, two, at_⟩ := ih (i := i) (by simpa using first) (by simpa using second)
      exact ⟨n, List.mem_append_right _ hn, two, by omega⟩

/-! ## Boundaries -/

/-- A boundary lies between the nuclei that it parts. -/
theorem le_boundary_and_le (ps : List Phoneme) {m n : Nucleus} (h : m.stop ≤ n.start) :
    m.stop ≤ boundary ps m n ∧ boundary ps m n ≤ n.start := by
  rw [boundary]
  -- By the number of phonemes between the nuclei.
  split
  · omega
  · omega
  · omega
  · split <;> omega
  · omega

theorem length_boundaries (ps : List Phoneme) (filled : nuclei ≠ []) :
    (boundaries ps nuclei).length = nuclei.length + 1 := by
  have some := List.length_pos_iff.2 filled
  rw [boundaries, List.length_append, List.length_cons, List.length_zipWith, List.length_tail,
    List.length_singleton]
  omega

theorem getElem?_boundaries_between {i : Nat} {m n : Nucleus} (here : nuclei[i]? = some m)
    (next : nuclei[i + 1]? = some n) : (boundaries ps nuclei)[i + 1]? = some (boundary ps m n) := by
  have between : (nuclei.zipWith (boundary ps) nuclei.tail)[i]? = some (boundary ps m n) := by
    rw [List.getElem?_zipWith_eq_some]
    exact ⟨m, n, here, by rwa [List.getElem?_tail], rfl⟩
  have inside := (List.getElem?_eq_some_iff.1 between).1
  rw [boundaries, List.cons_append, List.getElem?_cons_succ, List.getElem?_append_left inside,
    between]

theorem getElem?_boundaries_last (filled : nuclei ≠ []) :
    (boundaries ps nuclei)[nuclei.length]? = some ps.length := by
  have some := List.length_pos_iff.2 filled
  have before : (0 :: nuclei.zipWith (boundary ps) nuclei.tail).length = nuclei.length := by
    rw [List.length_cons, List.length_zipWith, List.length_tail]
    omega
  rw [boundaries, List.getElem?_append_right (Nat.le_of_eq before), before, Nat.sub_self]
  rfl

/-- Where a nucleus is cut out of a word: it is there in full, and nothing is there of the
    others. -/
structure Nucleus.IsAlone (nuclei : List Nucleus) (i : Nat) (n : Nucleus) (start stop : Nat) :
    Prop where
  first : start ≤ n.start
  filled : n.start < n.stop
  last : n.stop ≤ stop
  others : ∀ j ≠ i, ∀ m ∈ nuclei[j]?, m.stop ≤ start ∨ stop ≤ m.start

theorem Nucleus.Follow.stop_le_start {place stop i j : Nat} {m n : Nucleus}
    (h : Nucleus.Follow place stop nuclei) (before : i < j) (first : nuclei[i]? = some m)
    (second : nuclei[j]? = some n) : m.stop ≤ n.start := by
  obtain ⟨hi, rfl⟩ := List.getElem?_eq_some_iff.1 first
  obtain ⟨hj, rfl⟩ := List.getElem?_eq_some_iff.1 second
  exact List.pairwise_iff_getElem.1 h.next i j hi hj before

section

variable {i : Nat} {n : Nucleus}

/-- The boundary before a nucleus is the start of the word, or lies behind the nucleus before. -/
theorem Nucleus.Follow.exists_start (h : Nucleus.Follow 0 ps.length nuclei)
    (listed : nuclei[i]? = some n) :
    ∃ start, (boundaries ps nuclei)[i]? = some start ∧ start ≤ n.start ∧
      ∀ j < i, ∀ m ∈ nuclei[j]?, m.stop ≤ start := by
  cases i with
  | zero => exact ⟨0, rfl, Nat.zero_le _, fun j hj => absurd hj (Nat.not_lt_zero j)⟩
  | succ i =>
    have earlier : i < nuclei.length := by
      have := (List.getElem?_eq_some_iff.1 listed).1
      omega
    have previous : nuclei[i]? = some nuclei[i] := List.getElem?_eq_getElem earlier
    have bounds := le_boundary_and_le ps (h.stop_le_start (Nat.lt_succ_self i) previous listed)
    refine ⟨_, getElem?_boundaries_between previous listed, bounds.2, fun j hj m hm => ?_⟩
    rcases Nat.lt_or_eq_of_le (Nat.le_of_lt_succ hj) with before | rfl
    · have order := h.stop_le_start before hm previous
      have room := (h.inside _ (List.mem_of_getElem? previous)).2.1
      omega
    · rw [previous, Option.mem_some_iff] at hm
      rw [← hm]
      exact bounds.1

/-- The boundary after a nucleus lies before the next nucleus, or is the end of the word. -/
theorem Nucleus.Follow.exists_stop (h : Nucleus.Follow 0 ps.length nuclei)
    (listed : nuclei[i]? = some n) :
    ∃ stop, (boundaries ps nuclei)[i + 1]? = some stop ∧ n.stop ≤ stop ∧ stop ≤ ps.length ∧
      ∀ j > i, ∀ m ∈ nuclei[j]?, stop ≤ m.start := by
  have filled : nuclei ≠ [] := List.ne_nil_of_mem (List.mem_of_getElem? listed)
  have inside := h.inside n (List.mem_of_getElem? listed)
  cases next : nuclei[i + 1]? with
  | none =>
    have last : i + 1 = nuclei.length := by
      have room := (List.getElem?_eq_some_iff.1 listed).1
      have ended := List.getElem?_eq_none_iff.1 next
      omega
    refine ⟨ps.length, last ▸ getElem?_boundaries_last filled, inside.2.2, Nat.le_refl _, ?_⟩
    intro j hj m hm
    have room := (List.getElem?_eq_some_iff.1 hm).1
    omega
  | some o =>
    have bounds := le_boundary_and_le ps (h.stop_le_start (Nat.lt_succ_self i) listed next)
    have within := h.inside o (List.mem_of_getElem? next)
    refine ⟨_, getElem?_boundaries_between listed next, bounds.1, by omega, fun j hj m hm => ?_⟩
    rcases Nat.lt_or_eq_of_le hj with later | rfl
    · have order := h.stop_le_start later next hm
      omega
    · rw [next, Option.mem_some_iff] at hm
      rw [← hm]
      exact bounds.2

/-- Each nucleus is alone between two successive boundaries. -/
theorem Nucleus.Follow.exists_isAlone (h : Nucleus.Follow 0 ps.length nuclei)
    (listed : nuclei[i]? = some n) :
    ∃ start stop, (boundaries ps nuclei)[i]? = some start ∧
      (boundaries ps nuclei)[i + 1]? = some stop ∧ stop ≤ ps.length ∧
      Nucleus.IsAlone nuclei i n start stop := by
  obtain ⟨start, first, beforeNucleus, earlier⟩ := h.exists_start listed
  obtain ⟨stop, last, afterNucleus, room, later⟩ := h.exists_stop listed
  have filled := (h.inside n (List.mem_of_getElem? listed)).2.1
  refine ⟨start, stop, first, last, room, beforeNucleus, filled, afterNucleus, ?_⟩
  intro j other m hm
  rcases Nat.lt_or_gt_of_ne other with before | after
  · exact Or.inl (earlier j before m hm)
  · exact Or.inr (later j after m hm)

end

/-! ## Parts -/

/-- A part of a word is a run of its phonemes, and has a nucleus in it. -/
structure Part.IsRun (ps : List Phoneme) (start stop : Nat) (n : Nucleus) (part : Part) : Prop where
  filled : part.phonemes ≠ []
  run : part.phonemes = (ps.drop start).take (stop - start)
  text : part.text = part.phonemes.flatMap Phoneme.text
  nucleus : part.nucleus = some ⟨n.start - start, n.stop - start⟩

theorem isRun_between {table : DigraphTable} {word : Text} {start stop : Nat}
    (filled : start < stop) (room : stop ≤ (phonemes table word).length) (n : Nucleus) :
    (Part.between word (phonemes table word) start stop n).IsRun (phonemes table word) start stop
      n := by
  have before : start < (phonemes table word).length := by omega
  have within : stop - 1 < (phonemes table word).length := by omega
  -- Neither end of the run is looked for in vain.
  have first : (((phonemes table word).drop start).take (stop - start)).head? =
      some (phonemes table word)[start] := by
    rw [List.head?_take, if_neg (by omega), List.head?_drop, List.getElem?_eq_getElem before]
  have last : (((phonemes table word).drop start).take (stop - start)).getLast? =
      some (phonemes table word)[stop - 1] := by
    have place : start + (stop - start - 1) = stop - 1 := by omega
    rw [List.getLast?_take, if_neg (by omega), List.getElem?_drop, place,
      List.getElem?_eq_getElem within, Option.some_or]
  have slice := slice_eq_flatMap_text (i := start) (j := stop - 1) (by omega)
    (List.getElem?_eq_getElem before) (List.getElem?_eq_getElem within)
  have count : stop - 1 + 1 - start = stop - start := by omega
  rw [count] at slice
  constructor
  · show ((phonemes table word).drop start).take (stop - start) ≠ []
    intro none
    rw [none] at first
    exact absurd first (by simp)
  · rfl
  · rw [Part.between, first, last]
    exact slice
  · rfl

section

variable {word : Text} {compound : Bool}

theorem divide_of_few
    (few : (v.nuclei (phonemes (DigraphTable.forSyllables compound) word)).length < 2) :
    v.divide word compound = [{
      text := word
      phonemes := phonemes (DigraphTable.forSyllables compound) word
      nucleus := (v.nuclei (phonemes (DigraphTable.forSyllables compound) word)).head? }] := by
  rw [VowelSystem.divide]
  exact if_pos few

/-- In a word of several nuclei, the parts go from boundary to boundary, each with its nucleus. -/
theorem getElem?_divide_eq_some_iff {ps : List Phoneme} {nuclei : List Nucleus}
    (read : phonemes (DigraphTable.forSyllables compound) word = ps) (found : v.nuclei ps = nuclei)
    (many : 2 ≤ nuclei.length) {i : Nat} {part : Part} :
    (v.divide word compound)[i]? = some part ↔
      ∃ start stop n, (boundaries ps nuclei)[i]? = some start ∧
        (boundaries ps nuclei)[i + 1]? = some stop ∧ nuclei[i]? = some n ∧
        Part.between word ps start stop n = part := by
  have divided : v.divide word compound =
      ((boundaries ps nuclei).zip (boundaries ps nuclei).tail).zipWith
        (fun cut n => Part.between word ps cut.1 cut.2 n) nuclei := by
    rw [VowelSystem.divide, read, found]
    exact if_neg (Nat.not_lt.2 many)
  rw [divided, List.getElem?_zipWith_eq_some]
  constructor
  · rintro ⟨⟨start, stop⟩, n, cut, listed, same⟩
    rw [List.getElem?_zip_eq_some, List.getElem?_tail] at cut
    exact ⟨start, stop, n, cut.1, cut.2, listed, same⟩
  · rintro ⟨start, stop, n, first, last, listed, same⟩
    refine ⟨(start, stop), n, ?_, listed, same⟩
    rw [List.getElem?_zip_eq_some, List.getElem?_tail]
    exact ⟨first, last⟩

/-- A syllable of a word: the run of phonemes between two boundaries, where one nucleus is alone. -/
def Part.IsSyllable (ps : List Phoneme) (nuclei : List Nucleus) (i : Nat) (part : Part) : Prop :=
  ∃ start stop n, (boundaries ps nuclei)[i]? = some start ∧
    (boundaries ps nuclei)[i + 1]? = some stop ∧ nuclei[i]? = some n ∧ stop ≤ ps.length ∧
    n.IsAlone nuclei i start stop ∧ part.IsRun ps start stop n

theorem isSyllable_of_getElem?_divide {ps : List Phoneme} {nuclei : List Nucleus}
    (read : phonemes (DigraphTable.forSyllables compound) word = ps) (found : v.nuclei ps = nuclei)
    (many : 2 ≤ nuclei.length) {i : Nat} {part : Part}
    (h : (v.divide word compound)[i]? = some part) : part.IsSyllable ps nuclei i := by
  obtain ⟨start, stop, n, first, last, listed, rfl⟩ :=
    (getElem?_divide_eq_some_iff read found many).1 h
  have follow : Nucleus.Follow 0 ps.length nuclei := found ▸ follow_nuclei v ps
  obtain ⟨start', stop', first', last', room, alone⟩ := follow.exists_isAlone listed
  obtain rfl : start' = start := Option.some.inj (first'.symm.trans first)
  obtain rfl : stop' = stop := Option.some.inj (last'.symm.trans last)
  have filled : start' < stop' :=
    Nat.lt_of_le_of_lt alone.first (Nat.lt_of_lt_of_le alone.filled alone.last)
  refine ⟨start', stop', n, first, last, listed, room, alone, ?_⟩
  rw [← read] at room ⊢
  exact isRun_between filled room n

theorem length_divide {ps : List Phoneme} {nuclei : List Nucleus}
    (read : phonemes (DigraphTable.forSyllables compound) word = ps) (found : v.nuclei ps = nuclei)
    (many : 2 ≤ nuclei.length) : (v.divide word compound).length = nuclei.length := by
  have filled : nuclei ≠ [] := List.ne_nil_of_length_pos (by omega)
  rw [VowelSystem.divide, read, found]
  dsimp only
  rw [if_neg (Nat.not_lt.2 many), List.length_zipWith, List.length_zip, List.length_tail,
    length_boundaries ps filled]
  omega

/-- The first syllables of a word are spelled by the phonemes before their last boundary. -/
theorem flatMap_text_take_divide {ps : List Phoneme} {nuclei : List Nucleus}
    (read : phonemes (DigraphTable.forSyllables compound) word = ps) (found : v.nuclei ps = nuclei)
    (many : 2 ≤ nuclei.length) {k place : Nat}
    (cut : (boundaries ps nuclei)[k]? = some place) :
    ((v.divide word compound).take k).flatMap Part.text =
      (ps.take place).flatMap Phoneme.text := by
  induction k generalizing place with
  | zero =>
    obtain rfl : 0 = place := Option.some.inj cut
    rfl
  | succ k ih =>
    have inside : k < (v.divide word compound).length := by
      have room := (List.getElem?_eq_some_iff.1 cut).1
      have filled : nuclei ≠ [] := List.ne_nil_of_length_pos (by omega)
      rw [length_boundaries ps filled] at room
      rw [length_divide read found many]
      omega
    have here := List.getElem?_eq_getElem inside
    obtain ⟨start, stop, n, first, last, _, _, alone, run⟩ :=
      isSyllable_of_getElem?_divide read found many here
    obtain rfl : stop = place := Option.some.inj (last.symm.trans cut)
    have ascends : start + (stop - start) = stop := by
      have := alone.first
      have := alone.filled
      have := alone.last
      omega
    rw [List.take_add_one, here, Option.toList_some, List.flatMap_append, ih first,
      List.flatMap_singleton, run.text, run.run, ← List.flatMap_append, ← List.take_add, ascends]

theorem flatMap_text_divide (v : VowelSystem) (word : Text) (compound : Bool) :
    (v.divide word compound).flatMap Part.text = word := by
  generalize read : phonemes (DigraphTable.forSyllables compound) word = ps
  generalize found : v.nuclei ps = nuclei
  rcases Nat.lt_or_ge nuclei.length 2 with few | many
  · rw [divide_of_few (by rw [read, found]; exact few)]
    simp
  · have filled : nuclei ≠ [] := List.ne_nil_of_length_pos (by omega)
    have whole := flatMap_text_take_divide read found many (getElem?_boundaries_last filled)
    rwa [← length_divide read found many, List.take_length, List.take_length, ← read,
      flatMap_text_phonemes] at whole

/-! ## Analysed syllables -/

/-- The text of a nucleus. -/
def Nucleus.text (ps : List Phoneme) (n : Nucleus) : Text :=
  ((ps.take n.stop).drop n.start).flatMap Phoneme.text

section

variable (part : Part) (isStressed : Bool)

@[simp] theorem text_ofPart : (Syllable.ofPart part isStressed).text = part.text := by
  rw [Syllable.ofPart]

@[simp] theorem weight_ofPart : (Syllable.ofPart part isStressed).weight = part.text.weight := by
  rw [Syllable.ofPart]

@[simp] theorem isClosed_ofPart :
    (Syllable.ofPart part isStressed).isClosed = part.text.endsInConsonant := by
  rw [Syllable.ofPart]

@[simp] theorem isStressed_ofPart : (Syllable.ofPart part isStressed).isStressed = isStressed := by
  rw [Syllable.ofPart]

end

/-- A syllable is spelled by its onset, its nucleus and its coda. -/
theorem join_ofPart {part : Part} (text : part.text = part.phonemes.flatMap Phoneme.text)
    (ordered : ∀ n ∈ part.nucleus, n.start ≤ n.stop) (isStressed : Bool) :
    (Syllable.ofPart part isStressed).onset ++ (Syllable.ofPart part isStressed).nucleus ++
      (Syllable.ofPart part isStressed).coda = part.text := by
  rw [Syllable.ofPart]
  cases nucleus : part.nucleus with
  | none => simp
  | some n =>
    have before : part.phonemes.take n.start = (part.phonemes.take n.stop).take n.start := by
      rw [List.take_take, Nat.min_eq_left (ordered n nucleus)]
    dsimp only
    rw [before, ← List.flatMap_append, List.take_append_drop, ← List.flatMap_append,
      List.take_append_drop, text]

theorem nucleus_ofPart {part : Part} {ps : List Phoneme} {start stop : Nat} {n : Nucleus}
    (run : part.IsRun ps start stop n) (first : start ≤ n.start) (last : n.stop ≤ stop)
    (filled : n.start < n.stop) (isStressed : Bool) :
    (Syllable.ofPart part isStressed).nucleus = n.text ps := by
  have cut : (part.phonemes.take (n.stop - start)).drop (n.start - start) =
      (ps.take n.stop).drop n.start := by
    have left : start + (n.stop - start) = n.stop := by omega
    have right : start + (n.start - start) = n.start := by omega
    rw [run.run, List.take_take, Nat.min_eq_left (by omega), List.take_drop, List.drop_drop, left,
      right]
  rw [Syllable.ofPart, run.nucleus, Nucleus.text, ← cut]

/-- A syllable has the nucleus of its place; no nucleus, if the word has none. -/
def Syllable.IsSpelled (ps : List Phoneme) (nuclei : List Nucleus) (i : Nat) (s : Syllable) : Prop :=
  s.onset ++ s.nucleus ++ s.coda = s.text ∧ s.nucleus = (nuclei[i]?.map (Nucleus.text ps)).getD []

theorem isSpelled_ofPart {ps : List Phoneme} {nuclei : List Nucleus}
    (read : phonemes (DigraphTable.forSyllables compound) word = ps) (found : v.nuclei ps = nuclei)
    {i : Nat} {part : Part} (h : (v.divide word compound)[i]? = some part) (isStressed : Bool) :
    (Syllable.ofPart part isStressed).IsSpelled ps nuclei i := by
  rcases Nat.lt_or_ge nuclei.length 2 with few | many
  · -- One part, with the first nucleus of the word if there is one.
    rw [divide_of_few (by rw [read, found]; exact few), read, found,
      List.getElem?_singleton] at h
    obtain ⟨rfl, rfl⟩ : i = 0 ∧ { text := word, phonemes := ps, nucleus := nuclei.head? } = part := by
      simpa using h
    have follow := (found ▸ follow_nuclei v ps).inside
    refine ⟨join_ofPart ?_ ?_ isStressed, ?_⟩
    · rw [← read, flatMap_text_phonemes]
    · intro n hn
      exact Nat.le_of_lt (follow n (List.mem_of_mem_head? hn)).2.1
    · rw [Syllable.ofPart, List.head?_eq_getElem?]
      cases nuclei[0]? with
      | none => rfl
      | some n => rfl
  · obtain ⟨start, stop, n, _, _, listed, _, alone, run⟩ :=
      isSyllable_of_getElem?_divide read found many h
    refine ⟨join_ofPart run.text ?_ isStressed, ?_⟩
    · intro m hm
      rw [run.nucleus, Option.mem_some_iff] at hm
      rw [← hm]
      exact Nat.sub_le_sub_right (Nat.le_of_lt alone.filled) start
    · rw [nucleus_ofPart run alone.first alone.last alone.filled, listed]
      rfl

end

/-! ## Words -/

/-- Every word has phonemes by the tables for syllables. -/
theorem isPlain_forSyllables (compound : Bool) :
    (DigraphTable.forSyllables compound).isPlain = true := by
  cases compound
  · exact DigraphTable.isPlain_syllables
  · exact DigraphTable.isPlain_letters

theorem length_analyse (v : VowelSystem) (word : Text) (compound : Bool) :
    (v.analyse word compound).length = (v.divide word compound).length := by
  rw [VowelSystem.analyse, List.length_map, List.length_zipIdx]

theorem getElem?_analyse (v : VowelSystem) (word : Text) (compound : Bool) (i : Nat) :
    (v.analyse word compound)[i]? = (v.divide word compound)[i]?.map fun part =>
      Syllable.ofPart part
        (stressed? ((v.divide word compound).map (·.text.weight)) == some i) := by
  rw [VowelSystem.analyse, List.getElem?_map, List.getElem?_zipIdx, Option.map_map]
  congr 1
  funext part
  simp

theorem map_text_analyse (v : VowelSystem) (word : Text) (compound : Bool) :
    (v.analyse word compound).map Syllable.text = v.syllabify word compound := by
  have text : (Syllable.text ∘ fun entry : Part × Nat => Syllable.ofPart entry.1
      (stressed? ((v.divide word compound).map (·.text.weight)) == some entry.2)) =
        Part.text ∘ Prod.fst := rfl
  rw [VowelSystem.analyse, List.map_map]
  show (v.divide word compound).zipIdx.map (Syllable.text ∘ _) = _
  rw [text, ← List.map_map, List.zipIdx_map_fst, VowelSystem.syllabify]

/-- The syllables of a word partition it: one for each nucleus, or one only. -/
theorem syllables_partition (v : VowelSystem) (word : Text) (compound : Bool) :
    ∃ ps nuclei, phonemes? (DigraphTable.forSyllables compound) word = .ok ps ∧
      v.nuclei ps = nuclei ∧
      (v.syllabify word compound).flatten = word ∧
      (nuclei.length < 2 → v.syllabify word compound = [word]) ∧
      (2 ≤ nuclei.length → (v.divide word compound).length = nuclei.length ∧
        ∀ i (part : Part), (v.divide word compound)[i]? = some part →
          part.IsSyllable ps nuclei i) ∧
      (∀ i p q, ps[i]? = some p → ps[i + 1]? = some q → isDiphthong (p.text ++ q.text) = true →
        ∃ n ∈ nuclei, n.stop = n.start + 2 ∧ (n.start = i ∨ n.start + 1 = i)) ∧
      (v.analyse word compound).map Syllable.text = v.syllabify word compound ∧
      ∀ i (s : Syllable), (v.analyse word compound)[i]? = some s → s.IsSpelled ps nuclei i := by
  generalize read : phonemes (DigraphTable.forSyllables compound) word = ps
  generalize found : v.nuclei ps = nuclei
  have plain := isPlain_forSyllables compound
  refine ⟨ps, nuclei, read ▸ phonemes?_eq_ok plain word, found, ?_, fun few => ?_, fun many => ?_,
    fun i p q first second diphthong => ?_, map_text_analyse v word compound, fun i s hs => ?_⟩
  · rw [VowelSystem.syllabify, ← List.flatMap_def, flatMap_text_divide]
  · rw [VowelSystem.syllabify, divide_of_few (by rw [read, found]; exact few)]
    rfl
  · exact ⟨length_divide read found many, fun i part =>
      isSyllable_of_getElem?_divide read found many⟩
  · have nucleus := exists_nucleusFrom_of_isDiphthong (v := v) 0 first second diphthong
    rw [← VowelSystem.nuclei, found, Nat.zero_add] at nucleus
    exact nucleus
  · rw [VowelSystem.analyse, List.getElem?_map, Option.map_eq_some_iff] at hs
    obtain ⟨⟨part, place⟩, listed, rfl⟩ := hs
    rw [List.getElem?_zipIdx, Option.map_eq_some_iff] at listed
    obtain ⟨part', here, same⟩ := listed
    obtain ⟨rfl, _⟩ := Prod.mk.inj same
    exact isSpelled_ofPart read found here _

end SoundLaw
