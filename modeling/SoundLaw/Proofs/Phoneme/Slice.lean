/-
  SoundLaw.Proofs.Phoneme.Slice

  Slices of a word. A word can be cut wherever one of its phonemes begins or ends: what lies between
  two cuts is read by itself as it is read in the word, as the same phonemes at offsets that count
  from the first cut (`phonemes?_slice`), and it can be read if the word can.

  A cut on the right leaves a phoneme the digraph that it has, which ends in front of the cut, and
  brings up no longer one, which would open the rest of the word as well. A cut on the left brings no
  mark and no digraph to light, since the word is read on from there in any case. So a syllable, or
  what stands before or after a match, may be read again.
-/
import SoundLaw.Proofs.Phoneme.Cut

namespace SoundLaw

/-! ## Phonemes at other offsets -/

/-- A phoneme at an offset that is larger by `n`. -/
def Phoneme.moved (n : Nat) (p : Phoneme) : Phoneme :=
  { p with start := n + p.start, stop := n + p.stop }

theorem flatMap_text_map_moved (n : Nat) (ps : List Phoneme) :
    (ps.map (Phoneme.moved n)).flatMap Phoneme.text = ps.flatMap Phoneme.text := by
  rw [List.flatMap_map]
  rfl

theorem phonemesFrom_add (table : DigraphTable) (n start : Nat) (gs : List Grapheme) :
    phonemesFrom table (n + start) gs = (phonemesFrom table start gs).map (Phoneme.moved n) := by
  induction gs generalizing start with
  | nil => rfl
  | cons g gs ih =>
    rw [phonemesFrom, phonemesFrom, List.map_cons, Nat.add_assoc, ih]
    rfl

theorem take_phonemesFrom (table : DigraphTable) (start : Nat) (gs : List Grapheme) (k : Nat) :
    (phonemesFrom table start gs).take k = phonemesFrom table start (gs.take k) := by
  induction gs generalizing start k with
  | nil => simp [phonemesFrom]
  | cons g gs ih =>
    cases k with
    | zero => rfl
    | succ k => rw [phonemesFrom, List.take_succ_cons, List.take_succ_cons, phonemesFrom, ih]

/-- The phonemes after a cut are those of the graphemes after it, from the end of the ones before. -/
theorem drop_phonemesFrom (table : DigraphTable) (start : Nat) (gs : List Grapheme) (k : Nat) :
    (phonemesFrom table start gs).drop k =
      phonemesFrom table (start + ((gs.take k).flatMap Grapheme.text).length) (gs.drop k) := by
  induction gs generalizing start k with
  | nil => simp [phonemesFrom]
  | cons g gs ih =>
    cases k with
    | zero => simp
    | succ k =>
      rw [phonemesFrom, List.drop_succ_cons, List.drop_succ_cons, ih, List.take_succ_cons,
        List.flatMap_cons, List.length_append, Nat.add_assoc]

/-- Phonemes of graphemes that start at an offset lie between it and the end of the graphemes. -/
theorem bounds_of_mem_phonemesFrom {table : DigraphTable} {start : Nat} {gs : List Grapheme}
    {p : Phoneme} (h : p ∈ phonemesFrom table start gs) :
    start ≤ p.start ∧ p.stop ≤ start + (gs.flatMap Grapheme.text).length := by
  induction gs generalizing start with
  | nil => simp [phonemesFrom] at h
  | cons g gs ih =>
    rw [List.flatMap_cons, List.length_append]
    rw [phonemesFrom, List.mem_cons] at h
    rcases h with rfl | later
    · dsimp only
      omega
    · have bounds := ih later
      omega

/-! ## Runs -/

/-- The offset after the first phonemes of a word. -/
def offsetAfter (ps : List Phoneme) (count : Nat) : Nat :=
  ((ps.take count).flatMap Phoneme.text).length

theorem offsetAfter_add (ps : List Phoneme) (i count : Nat) :
    offsetAfter ps (i + count) =
      offsetAfter ps i + (((ps.drop i).take count).flatMap Phoneme.text).length := by
  rw [offsetAfter, offsetAfter, List.take_add, List.flatMap_append, List.length_append]

section

variable (table : DigraphTable) (word : Text) (i count : Nat)

theorem offsetAfter_phonemes :
    offsetAfter (phonemes table word) i =
      (((graphemes table isMark word).take i).flatMap Grapheme.text).length := by
  rw [offsetAfter, flatMap_text_take_phonemes]

/-- The graphemes of a run are those of its text. -/
theorem graphemes_run :
    graphemes table isMark ((((phonemes table word).drop i).take count).flatMap Phoneme.text) =
      ((graphemes table isMark word).drop i).take count := by
  have text : (((phonemes table word).drop i).take count).flatMap Phoneme.text =
      (((graphemes table isMark word).drop i).take count).flatMap Grapheme.text :=
    flatMap_text_congr (by
      rw [List.map_take, List.map_take, List.map_drop, List.map_drop, map_text_phonemes])
  -- The graphemes after `i` are those of the text there, and the first of these those of theirs.
  have after := graphemes_drop table word i
  have read := graphemes_take table
    (((graphemes table isMark word).drop i).flatMap Grapheme.text) count
  rw [after] at read
  rw [text, read]

/-- A run of phonemes of a word is read off its own text, the offsets apart. -/
theorem phonemes_run :
    ((phonemes table word).drop i).take count =
      (phonemes table ((((phonemes table word).drop i).take count).flatMap Phoneme.text)).map
        (Phoneme.moved (offsetAfter (phonemes table word) i)) := by
  calc ((phonemes table word).drop i).take count
    _ = phonemesFrom table (offsetAfter (phonemes table word) i)
          (((graphemes table isMark word).drop i).take count) := by
      rw [offsetAfter_phonemes, phonemes, drop_phonemesFrom, take_phonemesFrom, Nat.zero_add]
    _ = (phonemesFrom table 0 (((graphemes table isMark word).drop i).take count)).map
          (Phoneme.moved (offsetAfter (phonemes table word) i)) :=
      phonemesFrom_add table _ 0 _
    _ = _ := by
      rw [← graphemes_run]
      rfl

/-- The text of a run is the slice of the word between its two ends. -/
theorem extract_run :
    word.extract (offsetAfter (phonemes table word) i)
        (offsetAfter (phonemes table word) (i + count)) =
      (((phonemes table word).drop i).take count).flatMap Phoneme.text := by
  have after := drop_length_of_append (cut_phonemes table word i)
  have split := List.take_append_drop count ((phonemes table word).drop i)
  have text := congrArg (List.flatMap Phoneme.text) split
  rw [List.flatMap_append] at text
  rw [← offsetAfter] at after
  rw [List.extract_eq_take_drop, after, offsetAfter_add, Nat.add_sub_cancel_left]
  exact take_length_of_append text

theorem stop_le_of_mem_take : ∀ p ∈ (phonemes table word).take i,
    p.stop ≤ offsetAfter (phonemes table word) i := by
  intro p hp
  rw [phonemes, take_phonemesFrom] at hp
  have bounds := (bounds_of_mem_phonemesFrom hp).2
  rwa [Nat.zero_add, ← offsetAfter_phonemes] at bounds

theorem le_start_of_mem_drop : ∀ p ∈ (phonemes table word).drop i,
    offsetAfter (phonemes table word) i ≤ p.start := by
  intro p hp
  rw [phonemes, drop_phonemesFrom] at hp
  have bounds := (bounds_of_mem_phonemesFrom hp).1
  rwa [Nat.zero_add, ← offsetAfter_phonemes] at bounds

/-- The phonemes that lie between the two ends of a run are the run. -/
theorem filter_eq_run :
    ((phonemes table word).filter fun p =>
      offsetAfter (phonemes table word) i ≤ p.start ∧
        p.stop ≤ offsetAfter (phonemes table word) (i + count)) =
      ((phonemes table word).drop i).take count := by
  have filled : ∀ p ∈ phonemes table word, p.start < p.stop :=
    fun p hp => ((tiling_phonemes table word).each p hp).nonempty
  have before := stop_le_of_mem_take table word i
  have opened := le_start_of_mem_drop table word i
  have closed := stop_le_of_mem_take table word (i + count)
  have after := le_start_of_mem_drop table word (i + count)
  -- From here on only the bounds of the phonemes before, in and after the run count.
  generalize offsetAfter (phonemes table word) i = a at before opened ⊢
  generalize offsetAfter (phonemes table word) (i + count) = b at closed after ⊢
  generalize phonemes table word = ps at filled before opened closed after ⊢
  rw [List.take_add] at closed
  rw [← List.drop_drop] at after
  have front : ∀ p ∈ ps.take i, ¬(a ≤ p.start ∧ p.stop ≤ b) := by
    intro p hp
    have starts := filled p (List.mem_of_mem_take hp)
    have stops := before p hp
    omega
  have middle : ∀ p ∈ (ps.drop i).take count, a ≤ p.start ∧ p.stop ≤ b := fun p hp =>
    ⟨opened p (List.mem_of_mem_take hp), closed p (List.mem_append_right _ hp)⟩
  have back : ∀ p ∈ (ps.drop i).drop count, ¬(a ≤ p.start ∧ p.stop ≤ b) := by
    intro p hp
    have stops := filled p (List.mem_of_mem_drop (List.mem_of_mem_drop hp))
    have starts := after p hp
    omega
  conv_lhs =>
    rw [← List.take_append_drop i ps, ← List.take_append_drop count (ps.drop i)]
  rw [List.filter_append, List.filter_append, List.filter_eq_nil_iff.2 (by simpa using front),
    List.filter_eq_self.2 (by simpa using middle), List.filter_eq_nil_iff.2 (by simpa using back),
    List.nil_append, List.append_nil]

end

/-! ## Slices -/

/-- The slice of a word from one phoneme to another one is the text of the phonemes between
    them. -/
theorem slice_eq_flatMap_text {table : DigraphTable} {word : Text} {i j : Nat} (before : i ≤ j)
    {p q : Phoneme} (first : (phonemes table word)[i]? = some p)
    (last : (phonemes table word)[j]? = some q) :
    (word.take q.stop).drop p.start =
      (((phonemes table word).drop i).take (j + 1 - i)).flatMap Phoneme.text := by
  have start := (offsets_of_getElem?_phonemesFrom first).1
  have stop := (offsets_of_getElem?_phonemesFrom last).2
  rw [Nat.zero_add, ← phonemes, ← offsetAfter] at start stop
  have count : i + (j + 1 - i) = j + 1 := by omega
  rw [← extract_run, count, start, stop, List.extract_eq_take_drop, List.drop_take]

/-- Whether a phoneme begins or ends at an offset. The start of a word without phonemes counts
    too. -/
def IsPhonemeBoundary (ps : List Phoneme) (offset : Nat) : Prop :=
  offset = 0 ∨ ∃ p ∈ ps, offset = p.start ∨ offset = p.stop

instance (ps : List Phoneme) (offset : Nat) : Decidable (IsPhonemeBoundary ps offset) :=
  inferInstanceAs (Decidable (offset = 0 ∨ ∃ p ∈ ps, offset = p.start ∨ offset = p.stop))

theorem IsPhonemeBoundary.exists_offsetAfter {table : DigraphTable} {word : Text} {a : Nat}
    (boundary : IsPhonemeBoundary (phonemes table word) a) :
    ∃ i, offsetAfter (phonemes table word) i = a := by
  rcases boundary with rfl | ⟨p, hp, place⟩
  · exact ⟨0, rfl⟩
  · obtain ⟨i, here⟩ := List.mem_iff_getElem?.1 hp
    obtain ⟨start, stop⟩ := offsets_of_getElem?_phonemesFrom here
    rw [Nat.zero_add] at start stop
    rcases place with rfl | rfl
    · exact ⟨i, start.symm⟩
    · exact ⟨i + 1, stop.symm⟩

/-- Between two boundaries of a word lies a run of its phonemes. -/
theorem exists_run_of_boundaries {table : DigraphTable} {word : Text} {a b : Nat}
    (left : IsPhonemeBoundary (phonemes table word) a)
    (right : IsPhonemeBoundary (phonemes table word) b) (ordered : a ≤ b) :
    ∃ i count, offsetAfter (phonemes table word) i = a ∧
      offsetAfter (phonemes table word) (i + count) = b := by
  obtain ⟨i, rfl⟩ := left.exists_offsetAfter
  obtain ⟨j, rfl⟩ := right.exists_offsetAfter
  rcases Nat.le_total i j with forward | backward
  · obtain ⟨count, rfl⟩ := Nat.exists_eq_add_of_le forward
    exact ⟨i, count, rfl, rfl⟩
  · -- The two boundaries are the same one.
    obtain ⟨count, rfl⟩ := Nat.exists_eq_add_of_le backward
    have back := offsetAfter_add (phonemes table word) j count
    exact ⟨j, 0, by omega, rfl⟩

/-- A slice of a word from one boundary of its phonemes to another one has the phonemes that lie
    there, at offsets that count from the first boundary; and it can be read if the word can. -/
theorem phonemes?_slice {table : DigraphTable} {word : Text} {ps : List Phoneme} {a b : Nat}
    (read : phonemes? table word = .ok ps) (left : IsPhonemeBoundary ps a)
    (right : IsPhonemeBoundary ps b) (ordered : a ≤ b) :
    ∃ qs, phonemes? table (word.extract a b) = .ok qs ∧
      qs.map (Phoneme.moved a) = ps.filter fun p => a ≤ p.start ∧ p.stop ≤ b := by
  obtain ⟨rfl, listed⟩ := phonemes?_eq_ok_iff.1 read
  obtain ⟨i, count, rfl, rfl⟩ := exists_run_of_boundaries left right ordered
  rw [extract_run, filter_eq_run]
  refine ⟨_, phonemes?_eq_ok_iff.2 ⟨rfl, fun g hg => listed g ?_⟩, (phonemes_run ..).symm⟩
  rw [graphemes_run] at hg
  exact List.mem_of_mem_drop (List.mem_of_mem_take hg)

/-- A mark, two digraphs of which the second one follows a letter that it forms another one with,
    a mark again, and a letter. -/
def meetingDigraphs : Text := ['\u0301', 'N', 'g', 'w', 'h', '\u0304', 'a']

-- Both digraphs, without the marks that start the word and the letter that ends it.
theorem phonemes?_slice_of_meetingDigraphs :
    ∃ ps qs, phonemes? DigraphTable.words meetingDigraphs = .ok ps ∧
      IsPhonemeBoundary ps 1 ∧ IsPhonemeBoundary ps 6 ∧ 1 ≤ 6 ∧
      phonemes? DigraphTable.words (meetingDigraphs.extract 1 6) = .ok qs ∧
      qs.map (Phoneme.moved 1) = ps.filter (fun p => 1 ≤ p.start ∧ p.stop ≤ 6) := by
  have listed : ∀ g ∈ graphemes DigraphTable.words isMark meetingDigraphs,
      g.unlisted? DigraphTable.words = none := by decide +kernel
  have read := phonemes?_eq_ok_iff.2 ⟨rfl, listed⟩
  have left : IsPhonemeBoundary (phonemes DigraphTable.words meetingDigraphs) 1 := by
    decide +kernel
  have right : IsPhonemeBoundary (phonemes DigraphTable.words meetingDigraphs) 6 := by
    decide +kernel
  obtain ⟨qs, again, moved⟩ := phonemes?_slice read left right (by decide)
  exact ⟨_, qs, read, left, right, by decide, again, moved⟩

end SoundLaw
