/-
  SoundLaw.Proofs.Phoneme.Tiling

  The phonemes of a word tile it by maximal munch. They are non-empty, follow one another from the
  first offset of the word to the last one, and each takes the longest spelling of the table that
  opens the rest of the word, or else one character, and all the marks after it.

  A text is read grapheme by grapheme: the first one (`firstGrapheme`), and then those of what is
  left (`afterFirst`). What holds of a whole text is proved along them (`graphemes_induction`).

  One spelling can be overlooked. Where all the spellings of a table differ in the last letter
  alone, that letter is looked up in the lower case of the word, and a capital beyond the basic
  plane never occurs there (`DigraphTable.overlooks`).
-/
import Mathlib.Data.List.Chain
import SoundLaw.Phoneme

namespace SoundLaw

/-! ## Spellings that are overlooked -/

/-- Whether a table overlooks a spelling. -/
def DigraphTable.overlooks (table : DigraphTable) (spelling : Text) : Bool :=
  table.differsInLast && spelling.getLast?.any isFarCapital

theorem DigraphTable.mem_readable {table : DigraphTable} {d : Text × Text} :
    d ∈ table.readable ↔ d ∈ table ∧ d.1 ≠ [] ∧ table.overlooks d.1 = false := by
  rw [DigraphTable.readable, List.mem_filter, Bool.and_eq_true, Bool.not_eq_true',
    Bool.not_eq_true', List.isEmpty_eq_false_iff, ← DigraphTable.overlooks]

theorem DigraphTable.length_eq_of_differsInLast {table : DigraphTable} {d e : Text × Text}
    (h : table.differsInLast = true) (hd : d ∈ table) (he : e ∈ table) :
    d.1.length = e.1.length := by
  have inMap : ∀ f ∈ table, f.1 ∈ table.map (·.1) := fun f hf => List.mem_map_of_mem hf
  unfold DigraphTable.differsInLast at h
  split at h
  · next spelling others keys =>
    rw [Bool.and_eq_true, List.all_eq_true] at h
    have length : ∀ f ∈ table, f.1.length = spelling.dropLast.length + 1 := by
      intro f hf
      have checked := h.2 f.1 (keys ▸ inMap f hf)
      simp only [Bool.and_eq_true, Bool.not_eq_true', List.isEmpty_eq_false_iff,
        beq_iff_eq] at checked
      rw [← checked.2, List.length_dropLast]
      have := List.length_pos_iff.2 checked.1
      omega
    rw [length d hd, length e he]
  · exact absurd h (by simp)

/-- What is reached is as long as any spelling of the table that opens the text, overlooked or
    not. -/
theorem DigraphTable.length_le_of_reach {table : DigraphTable} {t : Text} {n : Nat}
    (filled : ∀ d ∈ table, d.1 ≠ []) (h : table.reach t = some n) :
    ∀ e ∈ table, DigraphTable.opens e.1 t = true → e.1.length ≤ n := by
  obtain ⟨⟨d, readable, _, length⟩, longest⟩ := DigraphTable.reach_eq_some_iff.1 h
  intro e he opening
  by_cases overlooked : table.overlooks e.1 = true
  · rw [DigraphTable.overlooks, Bool.and_eq_true] at overlooked
    have member := (DigraphTable.mem_readable.1 readable).1
    have same := DigraphTable.length_eq_of_differsInLast overlooked.1 he member
    omega
  · rw [Bool.not_eq_true] at overlooked
    exact longest e (DigraphTable.mem_readable.2 ⟨he, filled e he, overlooked⟩) opening

/-! ## Tilings -/

/-- How a phoneme lies in a word: between two offsets, and no mark follows it. -/
structure Phoneme.LiesIn (word : Text) (p : Phoneme) : Prop where
  nonempty : p.start < p.stop
  slice : p.text = word.extract p.start p.stop
  closed : ∀ c ∈ word[p.stop]?, isMark c = false

/-- Phonemes that lie in a word one after the other, from its start to its end. Only a word that
    starts with a mark has a phoneme that does. -/
structure Tiling (word : Text) (ps : List Phoneme) : Prop where
  join : ps.flatMap Phoneme.text = word
  first : ∀ p ∈ ps.head?, p.start = 0
  next : ps.IsChain fun p q => q.start = p.stop
  last : ∀ p ∈ ps.getLast?, p.stop = word.length
  each : ∀ p ∈ ps, p.LiesIn word
  opened : ∀ p ∈ ps, p.start ≠ 0 → ∀ c ∈ word[p.start]?, isMark c = false

/-- What a phoneme takes from the text that it opens: the longest spelling of the table that opens
    it too, or one character where all such spellings are overlooked, and then marks only. -/
def Phoneme.Munches (table : DigraphTable) (t : Text) (p : Phoneme) : Prop :=
  ∃ head trail, p.text = head ++ trail ∧ (∀ c ∈ trail, isMark c = true) ∧
    ((∃ d ∈ table, DigraphTable.opens d.1 t = true ∧ head = t.take d.1.length ∧
        table.standIn? head = some p.key ∧
        ∀ e ∈ table, DigraphTable.opens e.1 t = true → e.1.length ≤ d.1.length) ∨
      (head = t.take 1 ∧
        ∀ e ∈ table, DigraphTable.opens e.1 t = true → table.overlooks e.1 = true))

/-! ## Offsets -/

theorem head?_phonemesFrom (table : DigraphTable) (start : Nat) (gs : List Grapheme) :
    ∀ p ∈ (phonemesFrom table start gs).head?, p.start = start := by
  intro p hp
  cases gs with
  | nil => simp [phonemesFrom] at hp
  | cons g gs =>
    rw [phonemesFrom, List.head?_cons, Option.mem_some_iff] at hp
    rw [← hp]

theorem isChain_phonemesFrom (table : DigraphTable) (start : Nat) (gs : List Grapheme) :
    (phonemesFrom table start gs).IsChain fun p q => q.start = p.stop := by
  induction gs generalizing start with
  | nil => exact List.isChain_nil
  | cons g gs ih =>
    rw [phonemesFrom]
    exact List.isChain_cons.2 ⟨head?_phonemesFrom table _ gs, ih _⟩

theorem getLast?_phonemesFrom (table : DigraphTable) (start : Nat) (gs : List Grapheme) :
    ∀ p ∈ (phonemesFrom table start gs).getLast?,
      p.stop = start + (gs.flatMap Grapheme.text).length := by
  induction gs generalizing start with
  | nil => simp [phonemesFrom]
  | cons g gs ih =>
    intro p hp
    rw [List.flatMap_cons, List.length_append, ← Nat.add_assoc]
    cases gs with
    | nil =>
      rw [phonemesFrom, phonemesFrom, List.getLast?_singleton, Option.mem_some_iff] at hp
      rw [← hp]
      rfl
    | cons h gs =>
      apply ih
      rw [phonemesFrom, phonemesFrom, List.getLast?_cons_cons] at hp
      rwa [phonemesFrom]

/-- In a chain, every phoneme but the first one starts where another one stops. -/
theorem start_eq_or_exists_stop {ps : List Phoneme} {start : Nat}
    (first : ∀ p ∈ ps.head?, p.start = start) (next : ps.IsChain fun p q => q.start = p.stop) :
    ∀ p ∈ ps, p.start = start ∨ ∃ q ∈ ps, p.start = q.stop := by
  induction ps generalizing start with
  | nil => simp
  | cons q ps ih =>
    intro p hp
    rcases List.mem_cons.1 hp with rfl | hp
    · exact Or.inl (first p (by simp))
    · right
      rcases ih (List.isChain_cons.1 next).1 next.of_cons p hp with same | ⟨r, hr, same⟩
      · exact ⟨q, List.mem_cons_self, same⟩
      · exact ⟨r, List.mem_cons_of_mem q hr, same⟩

/-! ## One phoneme -/

/-- The first grapheme of a text, with the marks that follow its head. -/
def firstGrapheme (table : DigraphTable) (c : Char) (t : Text) : Grapheme where
  head := c :: t.take (table.extent (c :: t))
  isDigraph := (table.reach (c :: t)).isSome
  trail := (t.drop (table.extent (c :: t))).takeWhile isMark

/-- What is left of a text after its first grapheme. -/
def afterFirst (table : DigraphTable) (c : Char) (t : Text) : Text :=
  (t.drop (table.extent (c :: t))).dropWhile isMark

/-- A grapheme as the phoneme at an offset. -/
def Grapheme.at (table : DigraphTable) (start : Nat) (g : Grapheme) : Phoneme where
  text := g.text
  key := g.key table
  marks := g.text.marks
  start := start
  stop := start + g.text.length

theorem text_firstGrapheme_append (table : DigraphTable) (c : Char) (t : Text) :
    (firstGrapheme table c t).text ++ afterFirst table c t = c :: t := by
  rw [Grapheme.text, firstGrapheme, afterFirst, List.append_assoc, List.takeWhile_append_dropWhile,
    List.cons_append, List.take_append_drop]

theorem graphemes_cons (table : DigraphTable) (c : Char) (t : Text) :
    graphemes table isMark (c :: t) =
      firstGrapheme table c t :: graphemes table isMark (afterFirst table c t) := by
  rw [graphemes]
  rfl

/-- Induction along the graphemes of a text. -/
@[elab_as_elim]
theorem graphemes_induction (table : DigraphTable) {motive : Text → Prop} (nil : motive [])
    (cons : ∀ c t, motive (afterFirst table c t) → motive (c :: t)) (t : Text) : motive t := by
  fun_induction graphemes table isMark t with
  | case1 => exact nil
  | case2 c t rest ih => exact cons c t ih

/-- What trails the head of the first grapheme are marks. -/
theorem isMark_of_mem_trail (table : DigraphTable) (c : Char) (t : Text) :
    ∀ m ∈ (firstGrapheme table c t).trail, isMark m = true :=
  fun m hm => List.all_eq_true.1 List.all_takeWhile m hm

/-- The first grapheme has taken all the marks along. -/
theorem isMark_head?_afterFirst (table : DigraphTable) (c : Char) (t : Text) :
    ∀ d ∈ (afterFirst table c t).head?, isMark d = false := by
  intro d hd
  have unmarked := List.head?_dropWhile_not isMark (t.drop (table.extent (c :: t)))
  rw [← afterFirst, Option.mem_def.1 hd] at unmarked
  simpa using unmarked

/-- Where a digraph is reached, it is the head of the first grapheme. -/
theorem firstGrapheme_of_reach {table : DigraphTable} {c : Char} {t : Text} {n : Nat}
    (reached : table.reach (c :: t) = some n) :
    (firstGrapheme table c t).isDigraph = true ∧
      (firstGrapheme table c t).head = (c :: t).take n :=
  ⟨by simp [firstGrapheme, reached], DigraphTable.cons_take_extent reached⟩

/-- Where none is reached, the first grapheme is one character with its marks. -/
theorem firstGrapheme_of_reach_eq_none {table : DigraphTable} {c : Char} {t : Text}
    (unread : table.reach (c :: t) = none) :
    (firstGrapheme table c t).isDigraph = false ∧
      (firstGrapheme table c t).text = c :: (firstGrapheme table c t).trail := by
  simp [Grapheme.text, firstGrapheme, DigraphTable.extent, unread]

/-- The key of a digraph that the table lists is its stand-in. -/
theorem Grapheme.standIn?_eq_some_key {table : DigraphTable} {g : Grapheme}
    (digraph : g.isDigraph = true) (listed : g.unlisted? table = none) :
    table.standIn? g.head = some (g.key table) := by
  cases standIn : table.standIn? g.head with
  | none => simp [Grapheme.unlisted?, digraph, standIn] at listed
  | some key => simp [Grapheme.key, digraph, Grapheme.phoneme, standIn]

/-- Every phoneme is the first grapheme of what is left of the word when it is read. -/
theorem exists_firstGrapheme_of_mem (table : DigraphTable) (before t : Text) :
    ∀ p ∈ phonemesFrom table before.length (graphemes table isMark t),
      ∃ before' c t', before' ++ c :: t' = before ++ t ∧
        firstGrapheme table c t' ∈ graphemes table isMark t ∧
        p = (firstGrapheme table c t').at table before'.length := by
  -- Along the graphemes: what is read goes over from `t` to `before`.
  induction t using graphemes_induction table generalizing before with
  | nil => simp [phonemesFrom]
  | cons c t ih =>
    intro p hp
    rw [graphemes_cons] at hp ⊢
    rcases List.mem_cons.1 hp with here | later
    · exact ⟨before, c, t, rfl, List.mem_cons_self, here⟩
    · obtain ⟨before', c', t', whole, member, same⟩ :=
        ih (before ++ (firstGrapheme table c t).text) p (by rwa [List.length_append])
      refine ⟨before', c', t', ?_, List.mem_cons_of_mem _ member, same⟩
      rw [whole, List.append_assoc, text_firstGrapheme_append]

/-- The first grapheme of what is left of a word lies in the word. -/
theorem liesIn_firstGrapheme (table : DigraphTable) (before : Text) (c : Char) (t : Text) :
    ((firstGrapheme table c t).at table before.length).LiesIn (before ++ c :: t) := by
  have split := text_firstGrapheme_append table c t
  have closed := isMark_head?_afterFirst table c t
  generalize afterFirst table c t = rest at split closed
  have pos : 0 < (firstGrapheme table c t).text.length := by simp [firstGrapheme, Grapheme.text]
  refine ⟨?_, ?_, ?_⟩
  · show before.length < before.length + (firstGrapheme table c t).text.length
    omega
  · show (firstGrapheme table c t).text = _
    rw [← split, List.extract_eq_take_drop, Grapheme.at, List.drop_left, Nat.add_sub_cancel_left,
      List.take_left]
  · intro d hd
    rw [Grapheme.at, ← split, ← List.length_append, ← List.append_assoc,
      List.getElem?_append_right (Nat.le_refl _), Nat.sub_self, ← List.head?_eq_getElem?] at hd
    exact closed d hd

/-- The first grapheme of a text takes the longest spelling that opens it. -/
theorem munches_firstGrapheme {table : DigraphTable} (filled : ∀ d ∈ table, d.1 ≠ [])
    (start : Nat) (c : Char) (t : Text)
    (listed : (firstGrapheme table c t).unlisted? table = none) :
    ((firstGrapheme table c t).at table start).Munches table (c :: t) := by
  refine ⟨(firstGrapheme table c t).head, (firstGrapheme table c t).trail, rfl,
    isMark_of_mem_trail table c t, ?_⟩
  cases reached : table.reach (c :: t) with
  | none =>
    right
    refine ⟨by simp [firstGrapheme, DigraphTable.extent, reached], fun e he opening => ?_⟩
    by_cases overlooked : table.overlooks e.1 = true
    · exact overlooked
    · rw [Bool.not_eq_true] at overlooked
      have readable := DigraphTable.mem_readable.2 ⟨he, filled e he, overlooked⟩
      rw [DigraphTable.reach_eq_none_iff.1 reached e readable] at opening
      exact absurd opening (by simp)
  | some n =>
    left
    obtain ⟨⟨d, readable, opening, length⟩, _⟩ := DigraphTable.reach_eq_some_iff.1 reached
    obtain ⟨isDigraph, head⟩ := firstGrapheme_of_reach reached
    refine ⟨d, (DigraphTable.mem_readable.1 readable).1, opening, length ▸ head,
      Grapheme.standIn?_eq_some_key isDigraph listed, ?_⟩
    rw [length]
    exact DigraphTable.length_le_of_reach filled reached

/-! ## Words -/

/-- The phonemes of a word tile it, whatever the table. -/
theorem tiling_phonemes (table : DigraphTable) (word : Text) :
    Tiling word (phonemes table word) := by
  have first := head?_phonemesFrom table 0 (graphemes table isMark word)
  have next := isChain_phonemesFrom table 0 (graphemes table isMark word)
  have each : ∀ p ∈ phonemes table word, p.LiesIn word := by
    intro p hp
    obtain ⟨before, c, t, whole, _, rfl⟩ := exists_firstGrapheme_of_mem table [] word p hp
    rw [← List.nil_append word, ← whole]
    exact liesIn_firstGrapheme table before c t
  refine ⟨flatMap_text_phonemes table word, first, next, ?_, each, ?_⟩
  · intro p hp
    rw [getLast?_phonemesFrom table 0 _ p hp, flatMap_text_graphemes, Nat.zero_add]
  · intro p hp inside c hc
    rcases start_eq_or_exists_stop first next p hp with start | ⟨q, hq, same⟩
    · exact absurd start inside
    · exact (each q hq).closed c (same ▸ hc)

theorem phonemes?_eq_ok_iff {table : DigraphTable} {word : Text} {ps : List Phoneme} :
    phonemes? table word = .ok ps ↔
      ps = phonemes table word ∧ ∀ g ∈ graphemes table isMark word, g.unlisted? table = none := by
  rw [phonemes?]
  split
  · next spelling found =>
    have some : ¬∀ g ∈ graphemes table isMark word, g.unlisted? table = none := by
      rw [← List.findSome?_eq_none_iff, ← firstUnlisted?, found]
      simp
    simp [some]
  · next none =>
    rw [firstUnlisted?, List.findSome?_eq_none_iff] at none
    rw [Except.ok.injEq]
    exact ⟨fun h => ⟨h.symm, none⟩, fun h => h.1.symm⟩

/-- The phonemes of a word, if it has any, tile it, and each takes the longest spelling that opens
    the rest of the word. -/
theorem tiling_and_munches {table : DigraphTable} {word : Text} {ps : List Phoneme}
    (filled : ∀ d ∈ table, d.1 ≠ []) (read : phonemes? table word = .ok ps) :
    Tiling word ps ∧ ∀ p ∈ ps, p.Munches table (word.drop p.start) := by
  obtain ⟨rfl, listed⟩ := phonemes?_eq_ok_iff.1 read
  refine ⟨tiling_phonemes table word, fun p hp => ?_⟩
  obtain ⟨before, c, t, whole, member, rfl⟩ := exists_firstGrapheme_of_mem table [] word p hp
  rw [List.nil_append] at whole
  rw [← whole, Grapheme.at, List.drop_left]
  exact munches_firstGrapheme filled before.length c t (listed _ member)

-- A mark that starts the word, a spelling that is a prefix of another one, and marks after both.
theorem tiling_and_munches_of_marked_word :
    (∀ d ∈ DigraphTable.words, d.1 ≠ []) ∧
      ∃ ps, phonemes? DigraphTable.words ['\u0301', 'K', 'ʰ', 'w', '\u0304', 'k', 'ʰ', 'a'] = .ok ps ∧
        Tiling ['\u0301', 'K', 'ʰ', 'w', '\u0304', 'k', 'ʰ', 'a'] ps ∧
        ∀ p ∈ ps, p.Munches DigraphTable.words
          (['\u0301', 'K', 'ʰ', 'w', '\u0304', 'k', 'ʰ', 'a'].drop p.start) := by
  have filled : ∀ d ∈ DigraphTable.words, d.1 ≠ [] := by decide
  have listed : ∀ g ∈ graphemes DigraphTable.words isMark
      ['\u0301', 'K', 'ʰ', 'w', '\u0304', 'k', 'ʰ', 'a'],
      g.unlisted? DigraphTable.words = none := by decide +kernel
  have read := phonemes?_eq_ok_iff.2 ⟨rfl, listed⟩
  exact ⟨filled, _, read, tiling_and_munches filled read⟩

/-- Two spellings that differ in their last letter, and one of them ends in a capital beyond the
    basic plane: it opens the word and is not taken. -/
theorem phonemes_overlook_farCapital :
    phonemes? [(['x', '𐐀'], ['A']), (['x', 'b'], ['B'])] ['x', '𐐀'] =
        .ok [⟨['x'], ['x'], [], 0, 1⟩, ⟨['𐐀'], ['𐐨'], [], 1, 2⟩] ∧
      DigraphTable.opens ['x', '𐐀'] ['x', '𐐀'] = true := by
  refine ⟨phonemes?_eq_ok_iff.2 ⟨?_, ?_⟩, ?_⟩
  · decide +kernel
  · decide +kernel
  · decide +kernel

end SoundLaw
