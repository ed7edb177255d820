/-
  SoundLaw.Proofs.Match.Leftmost

  A variant matches at the leftmost place that admits it, and nowhere only if there is no such place.
  What a place must offer is stated without the search (`Variant.Admits`): enough phonemes, each
  accepted by its step, one key for each coindex, and the distance from both ends of the word that
  the position asks for.
-/
import SoundLaw.Proofs.Match.Binding
import SoundLaw.Variant.Alignment

namespace SoundLaw

/-! ## Admissible places -/

/-- The steps of a variant that match a phoneme. -/
def Variant.consuming (v : Variant) : List Step := v.steps.filter Step.consumes

/-- Whether a match may go from one place to another one in a word of `length` phonemes. -/
def Position.Places (position : Position) (length start stop : Nat) : Prop :=
  match position with
  | initial => start = 0
  | medial => 1 ≤ start ∧ stop < length
  | final => stop = length
  | any => True

/-- A variant can be matched from a place on. -/
structure Variant.Admits (v : Variant) (ps : List Phoneme) (o : Nat) : Prop where
  room : o + v.consuming.length ≤ ps.length
  accepted : ∀ pair ∈ v.consuming.zip (ps.drop o), pair.1.Accepts pair.2
  coherent : Coherent (v.consuming.zip (ps.drop o))
  placed : v.position.Places ps.length o (o + v.consuming.length)

/-- A match binds each step in turn to the phonemes from its start on, and captures their keys. -/
structure Match.Binds (m : Match) (v : Variant) (ps : List Phoneme) : Prop where
  stop : m.stop = m.start + v.consuming.length
  row : m.bindings.map Binding.step = v.steps
  consumes : ∀ b ∈ m.bindings, b.phoneme.isSome = b.step.consumes
  paired : m.bindings.filterMap (fun b => b.phoneme.map (b.step, ·)) =
    v.consuming.zip (ps.drop m.start)
  chosen : ∀ b ∈ m.bindings, ∀ p, b.phoneme = some p → b.step.Prefers p b.choice
  captured : ∀ n key, m.captures.lookup n = some key ↔
    ∃ pair ∈ v.consuming.zip (ps.drop m.start), pair.1.oldCoindex = some n ∧ pair.2.key = key

/-- A step that is bound to a phoneme is paired with it. -/
theorem Match.Binds.mem_zip {m : Match} {v : Variant} {ps : List Phoneme} (binds : m.Binds v ps)
    {b : Binding} (hb : b ∈ m.bindings) {p : Phoneme} (bound : b.phoneme = some p) :
    (b.step, p) ∈ v.consuming.zip (ps.drop m.start) := by
  rw [← binds.paired]
  exact List.mem_filterMap.2 ⟨b, hb, by rw [bound]; rfl⟩

/-! ## One place -/

theorem bindAt_eq_some_iff {v : Variant} {ps : List Phoneme} {o : Nat} {m : Match} :
    v.bindAt ps o = some m ↔
      ∃ bindings captures, bindSteps [] v.steps (ps.drop o) = some (bindings, captures) ∧
        { start := o, stop := o + bindings.countP (·.phoneme.isSome), bindings, captures } = m := by
  simp [Variant.bindAt, Option.bind_eq_some_iff]

theorem bindAt_start {v : Variant} {ps : List Phoneme} {o : Nat} {m : Match}
    (h : v.bindAt ps o = some m) : m.start = o := by
  obtain ⟨_, _, _, rfl⟩ := bindAt_eq_some_iff.1 h
  rfl

theorem Match.binds_of_bindAt {v : Variant} {ps : List Phoneme} {o : Nat} {m : Match}
    (h : v.bindAt ps o = some m) : m.Binds v ps := by
  obtain ⟨bindings, captures, found, rfl⟩ := bindAt_eq_some_iff.1 h
  have bound := bound_of_bindSteps found
  -- As many steps have a phoneme as consume one.
  have count : bindings.countP (·.phoneme.isSome) = v.consuming.length := by
    have same : ∀ b ∈ bindings, b.phoneme.isSome = true ↔ b.step.consumes = true := by
      intro b hb
      rw [bound.consumes b hb]
    rw [List.countP_congr same, Variant.consuming, ← List.countP_eq_length_filter, ← bound.row,
      List.countP_map]
    rfl
  constructor
  · show o + bindings.countP (·.phoneme.isSome) = o + v.consuming.length
    rw [count]
  · exact bound.row
  · exact bound.consumes
  · exact bound.paired
  · exact bound.chosen
  · intro n key
    rw [bound.captured n key]
    simp [pairedSteps, Variant.consuming]

theorem isSome_bindAt_iff {v : Variant} {ps : List Phoneme} {o : Nat} (inside : o ≤ ps.length) :
    (v.bindAt ps o).isSome = true ↔
      o + v.consuming.length ≤ ps.length ∧
        (∀ pair ∈ v.consuming.zip (ps.drop o), pair.1.Accepts pair.2) ∧
        Coherent (v.consuming.zip (ps.drop o)) := by
  have bound : (v.bindAt ps o).isSome = (bindSteps [] v.steps (ps.drop o)).isSome := by
    rw [Variant.bindAt]
    cases bindSteps [] v.steps (ps.drop o) <;> rfl
  have room : v.consuming.length ≤ (ps.drop o).length ↔
      o + v.consuming.length ≤ ps.length := by
    rw [List.length_drop]
    omega
  rw [bound, isSome_bindSteps_iff, ← room]
  rfl

theorem Position.places_iff {position : Position} {length start stop : Nat}
    (before : start ≤ stop) (inside : stop ≤ length) :
    position.Places length start stop ↔
      start ∈ position.starts length ∧ position.allowsStop length stop = true := by
  cases position with
  | initial => simp [Position.Places, Position.starts, Position.allowsStop]
  | medial =>
    simp only [Position.Places, Position.starts, Position.allowsStop, List.mem_range'_1,
      decide_eq_true_eq]
    omega
  | final =>
    simp only [Position.Places, Position.starts, Position.allowsStop, List.mem_range,
      beq_iff_eq]
    omega
  | any =>
    simp only [Position.Places, Position.starts, Position.allowsStop, List.mem_range, true_iff,
      and_true]
    omega

theorem Position.le_of_mem_starts {position : Position} {length o : Nat}
    (h : o ∈ position.starts length) : o ≤ length := by
  cases position <;> simp [Position.starts] at h <;> omega

/-- The places are searched from left to right. -/
theorem Position.pairwise_starts (position : Position) (length : Nat) :
    (position.starts length).Pairwise (· < ·) := by
  cases position with
  | initial => exact List.pairwise_singleton _ _
  | medial => exact List.pairwise_lt_range'
  | final => exact List.pairwise_lt_range
  | any => exact List.pairwise_lt_range

/-- A place that is searched yields a match exactly if it admits the variant. -/
theorem isSome_filter_bindAt_iff {v : Variant} {ps : List Phoneme} {o : Nat}
    (searched : o ∈ v.position.starts ps.length) :
    ((v.bindAt ps o).filter fun m => v.position.allowsStop ps.length m.stop).isSome = true ↔
      v.Admits ps o := by
  have inside := Position.le_of_mem_starts searched
  -- The place where a match starts is searched, and the place where it stops is checked after it.
  constructor
  · intro h
    obtain ⟨m, found⟩ := Option.isSome_iff_exists.1 h
    obtain ⟨bound, allowed⟩ := Option.filter_eq_some_iff.1 found
    have some : (v.bindAt ps o).isSome = true := by rw [bound]; rfl
    obtain ⟨room, accepted, coherent⟩ := (isSome_bindAt_iff inside).1 some
    refine ⟨room, accepted, coherent, ?_⟩
    rw [Position.places_iff (Nat.le_add_right o _) room]
    rw [(Match.binds_of_bindAt bound).stop, bindAt_start bound] at allowed
    exact ⟨searched, allowed⟩
  · intro h
    obtain ⟨m, bound⟩ := Option.isSome_iff_exists.1
      ((isSome_bindAt_iff inside).2 ⟨h.room, h.accepted, h.coherent⟩)
    have allowed := ((Position.places_iff (Nat.le_add_right o _) h.room).1 h.placed).2
    rw [← bindAt_start bound, ← (Match.binds_of_bindAt bound).stop] at allowed
    rw [bound, Option.filter_some, if_pos allowed]
    rfl

/-! ## The search -/

theorem Variant.Admits.mem_starts {v : Variant} {ps : List Phoneme} {o : Nat}
    (h : v.Admits ps o) : o ∈ v.position.starts ps.length :=
  ((Position.places_iff (Nat.le_add_right o _) h.room).1 h.placed).1

theorem findMatch?_eq_none_iff {v : Variant} {ps : List Phoneme} :
    v.findMatch? ps = none ↔ ∀ o, ¬v.Admits ps o := by
  rw [Variant.findMatch?, List.findSome?_eq_none_iff]
  constructor
  · intro none o admits
    have found := (isSome_filter_bindAt_iff admits.mem_starts).2 admits
    rw [none o admits.mem_starts] at found
    exact absurd found (by simp)
  · intro none o searched
    rw [← Option.not_isSome_iff_eq_none, isSome_filter_bindAt_iff searched]
    exact none o

/-- What is found is bound to the leftmost place that admits the variant. -/
theorem binds_of_findMatch? {v : Variant} {ps : List Phoneme} {m : Match}
    (h : v.findMatch? ps = some m) :
    v.Admits ps m.start ∧ (∀ o < m.start, ¬v.Admits ps o) ∧ m.Binds v ps := by
  obtain ⟨before, o, after, starts, found, missed⟩ := List.findSome?_eq_some_iff.1 h
  have searched : o ∈ v.position.starts ps.length := by simp [starts]
  have bound := (Option.filter_eq_some_iff.1 found).1
  have admits : v.Admits ps o := by
    rw [← isSome_filter_bindAt_iff searched, found]
    rfl
  rw [bindAt_start bound]
  refine ⟨admits, fun earlier smaller admits' => ?_, Match.binds_of_bindAt bound⟩
  -- An earlier place that admits the variant was searched before, and nothing was found there.
  have sorted := v.position.pairwise_starts ps.length
  have member := admits'.mem_starts
  rw [starts] at sorted member
  have place : earlier ∈ before := by
    rcases List.mem_append.1 member with first | rest
    · exact first
    · rcases List.mem_cons.1 rest with rfl | rest
      · exact absurd smaller (Nat.lt_irrefl _)
      · have later := (List.pairwise_cons.1 (List.pairwise_append.1 sorted).2.1).1 earlier rest
        omega
  have none := missed earlier place
  rw [← Option.not_isSome_iff_eq_none, isSome_filter_bindAt_iff admits'.mem_starts] at none
  exact none admits'

/-- A variant is matched at the leftmost place that admits it, if there is one. -/
theorem binds_leftmost (v : Variant) (ps : List Phoneme) :
    (v.findMatch? ps = none ↔ ∀ o, ¬v.Admits ps o) ∧
      ∀ m, v.findMatch? ps = some m →
        v.Admits ps m.start ∧ (∀ o < m.start, ¬v.Admits ps o) ∧ m.Binds v ps :=
  ⟨findMatch?_eq_none_iff, fun _ => binds_of_findMatch?⟩

/-- Two vowels of one quality in the middle of a word. -/
def doubledVowel : Variant where
  steps := [{ find := vowelClass, replace := [['a']], oldCoindex := some 1 },
    { find := vowelClass, replace := [], oldCoindex := some 1 }]
  position := .medial

-- The pairs of different vowels before the pair of the same one are passed over.
theorem binds_doubledVowel :
    ∃ m, doubledVowel.findMatch? (phonemes DigraphTable.rules ['t', 'a', 'e', 'o', 'o', 's']) = some m ∧
      m.start = 3 ∧
      (∀ o < m.start, ¬doubledVowel.Admits
        (phonemes DigraphTable.rules ['t', 'a', 'e', 'o', 'o', 's']) o) ∧
      m.Binds doubledVowel (phonemes DigraphTable.rules ['t', 'a', 'e', 'o', 'o', 's']) := by
  have start : (doubledVowel.findMatch?
      (phonemes DigraphTable.rules ['t', 'a', 'e', 'o', 'o', 's'])).map Match.start = some 3 := by
    decide +kernel
  obtain ⟨m, found, start⟩ := Option.map_eq_some_iff.1 start
  obtain ⟨_, leftmost, binds⟩ := (binds_leftmost _ _).2 m found
  exact ⟨m, found, start, leftmost, binds⟩

end SoundLaw
