/-
  SoundLaw.Proofs.Phoneme.Cut

  Cutting a word between two phonemes. The offsets of a phoneme are the lengths of the texts up to
  it, and both sides of a cut are read by themselves as they are read in the word
  (`graphemes_take`, `graphemes_drop`).

  Conversely, two texts that are put together are read as they are read apart if the second one
  does not start with a mark and no digraph goes on from the last grapheme of the first one into it
  (`graphemes_append`). This needs a table with the beginnings of its digraphs in it
  (`DigraphTable.HasBeginnings`): what begins a longer digraph is then taken as a digraph itself.
-/
import Mathlib.Data.List.Infix
import SoundLaw.Proofs.Phoneme.Tiling

namespace SoundLaw

/-! ## Keys -/

/-- The keys of the phonemes of a text, as rules read it. -/
def Text.keys (t : Text) : List Text := (phonemes DigraphTable.rules t).map Phoneme.key

theorem map_key_phonemesFrom (table : DigraphTable) (start : Nat) (gs : List Grapheme) :
    (phonemesFrom table start gs).map Phoneme.key = gs.map (Grapheme.key table) := by
  induction gs generalizing start with
  | nil => rfl
  | cons g gs ih => simp [phonemesFrom, ih]

theorem Text.keys_eq (t : Text) :
    t.keys = (graphemes DigraphTable.rules isMark t).map (Grapheme.key DigraphTable.rules) :=
  map_key_phonemesFrom DigraphTable.rules 0 _

/-! ## Texts -/

/-- Phonemes and graphemes that are written alike join to the same text. -/
theorem flatMap_text_congr {ps : List Phoneme} {gs : List Grapheme}
    (alike : ps.map Phoneme.text = gs.map Grapheme.text) :
    ps.flatMap Phoneme.text = gs.flatMap Grapheme.text := by
  rw [List.flatMap_def, alike, ← List.flatMap_def]

section

variable (table : DigraphTable) (word : Text) (k : Nat)

theorem map_text_phonemes :
    (phonemes table word).map Phoneme.text = (graphemes table isMark word).map Grapheme.text :=
  map_text_phonemesFrom table 0 _

theorem flatMap_text_take_phonemes :
    ((phonemes table word).take k).flatMap Phoneme.text =
      ((graphemes table isMark word).take k).flatMap Grapheme.text :=
  flatMap_text_congr (by rw [List.map_take, List.map_take, map_text_phonemes])

theorem flatMap_text_drop_phonemes :
    ((phonemes table word).drop k).flatMap Phoneme.text =
      ((graphemes table isMark word).drop k).flatMap Grapheme.text :=
  flatMap_text_congr (by rw [List.map_drop, List.map_drop, map_text_phonemes])

end

/-! ## Offsets -/

/-- The offsets of a phoneme are the lengths of what comes before it and of what comes up to its
    end. -/
theorem offsets_of_getElem?_phonemesFrom {table : DigraphTable} {start : Nat} {gs : List Grapheme}
    {i : Nat} {p : Phoneme} (h : (phonemesFrom table start gs)[i]? = some p) :
    p.start = start + (((phonemesFrom table start gs).take i).flatMap Phoneme.text).length ∧
      p.stop = start + (((phonemesFrom table start gs).take (i + 1)).flatMap Phoneme.text).length := by
  induction gs generalizing start i with
  | nil => simp [phonemesFrom] at h
  | cons g gs ih =>
    rw [phonemesFrom] at h ⊢
    cases i with
    | zero =>
      rw [List.getElem?_cons_zero, Option.some.injEq] at h
      subst h
      exact ⟨rfl, by simp⟩
    | succ i =>
      rw [List.getElem?_cons_succ] at h
      obtain ⟨first, last⟩ := ih h
      rw [first, last]
      simp only [List.take_succ_cons, List.flatMap_cons, List.length_append]
      omega

/-- A word is cut where a number of its phonemes end. -/
theorem cut_phonemes (table : DigraphTable) (word : Text) (i : Nat) :
    ((phonemes table word).take i).flatMap Phoneme.text ++
      ((phonemes table word).drop i).flatMap Phoneme.text = word := by
  rw [← List.flatMap_append, List.take_append_drop, flatMap_text_phonemes]

theorem take_length_of_append {a b word : Text} (h : a ++ b = word) : word.take a.length = a := by
  rw [← h, List.take_left]

theorem drop_length_of_append {a b word : Text} (h : a ++ b = word) : word.drop a.length = b := by
  rw [← h, List.drop_left]

/-- Where a character can stand that is found in a text with another one marked in it: before it, in
    its place, or after it. -/
theorem cases_of_append_cons_eq {a t before after : Text} {d c : Char}
    (h : a ++ d :: t = before ++ c :: after) :
    (∃ x, a = before ++ c :: x ∧ after = x ++ d :: t) ∨ (a = before ∧ d = c ∧ t = after) ∨
      ∃ x, before = a ++ d :: x ∧ t = x ++ c :: after := by
  rcases List.append_eq_append_iff.1 h with ⟨x, rfl, rest⟩ | ⟨x, rfl, rest⟩
  · rcases List.cons_eq_append_iff.1 rest with ⟨rfl, same⟩ | ⟨x, rfl, later⟩
    · obtain ⟨rfl, rfl⟩ := List.cons.inj same
      exact Or.inr (Or.inl ⟨by simp, rfl, rfl⟩)
    · exact Or.inr (Or.inr ⟨x, rfl, later⟩)
  · rcases List.cons_eq_append_iff.1 rest with ⟨rfl, same⟩ | ⟨x, rfl, later⟩
    · obtain ⟨rfl, rfl⟩ := List.cons.inj same
      exact Or.inr (Or.inl ⟨by simp, rfl, rfl⟩)
    · exact Or.inl ⟨x, rfl, later⟩

/-! ## Digraphs at the start of a text -/

theorem DigraphTable.opens_iff_append {spelling s : Text} (u : Text) :
    DigraphTable.opens spelling s = true ↔
      DigraphTable.opens spelling (s ++ u) = true ∧ spelling.length ≤ s.length := by
  induction spelling generalizing s with
  | nil => simp [DigraphTable.opens]
  | cons k spelling ih =>
    cases s with
    | nil => simp [DigraphTable.opens]
    | cons c s =>
      rw [List.cons_append, DigraphTable.opens, DigraphTable.opens, Bool.and_eq_true,
        Bool.and_eq_true, ih]
      simp only [List.length_cons, Nat.add_le_add_iff_right, and_assoc]

theorem DigraphTable.opens_append {spelling s u : Text}
    (opening : DigraphTable.opens spelling s = true) :
    DigraphTable.opens spelling (s ++ u) = true :=
  ((DigraphTable.opens_iff_append u).1 opening).1

/-- What a digraph opens with are its letters, case aside. -/
theorem DigraphTable.exists_sameLetter_of_opens {spelling t : Text}
    (opening : DigraphTable.opens spelling t = true) :
    ∀ c ∈ t.take spelling.length, ∃ k ∈ spelling, sameLetter c k = true := by
  induction spelling generalizing t with
  | nil => simp
  | cons k spelling ih =>
    cases t with
    | nil => simp
    | cons c t =>
      rw [DigraphTable.opens, Bool.and_eq_true] at opening
      rw [List.length_cons, List.take_succ_cons, List.forall_mem_cons]
      refine ⟨⟨k, List.mem_cons_self, opening.1⟩, fun d hd => ?_⟩
      obtain ⟨l, hl, same⟩ := ih opening.2 d hd
      exact ⟨l, List.mem_cons_of_mem k hl, same⟩

/-- A text that goes on is read alike at its start if no digraph needs what comes after it. -/
theorem DigraphTable.reach_append {table : DigraphTable} {s u : Text}
    (short : ∀ d ∈ table.readable, DigraphTable.opens d.1 (s ++ u) = true →
      d.1.length ≤ s.length) : table.reach (s ++ u) = table.reach s := by
  have same : ∀ d ∈ table.readable,
      DigraphTable.opens d.1 (s ++ u) = DigraphTable.opens d.1 s := by
    intro d hd
    rw [Bool.eq_iff_iff, DigraphTable.opens_iff_append (s := s) u]
    exact ⟨fun opening => ⟨opening, short d hd opening⟩, And.left⟩
  rw [DigraphTable.reach, DigraphTable.reach, List.filter_congr same]

/-- A digraph of several letters does not open a single one. -/
theorem DigraphTable.reach_singleton {table : DigraphTable} (long : ∀ d ∈ table, 2 ≤ d.1.length)
    (c : Char) : table.reach [c] = none := by
  rw [DigraphTable.reach_eq_none_iff]
  intro d hd
  rw [← Bool.not_eq_true]
  intro opening
  have length := long d (DigraphTable.mem_of_mem_readable hd).1
  have short := DigraphTable.length_le_of_opens opening
  rw [List.length_singleton] at short
  omega

/-- The digraphs of rule notation have several letters. -/
theorem DigraphTable.two_le_length_rules : ∀ d ∈ DigraphTable.rules, 2 ≤ d.1.length := by decide

theorem DigraphTable.ne_nil_rules : ∀ d ∈ DigraphTable.rules, d.1 ≠ [] := by decide

/-- So have the digraphs of words. -/
theorem DigraphTable.two_le_length_words : ∀ d ∈ DigraphTable.words, 2 ≤ d.1.length := by decide

theorem DigraphTable.ne_nil_words : ∀ d ∈ DigraphTable.words, d.1 ≠ [] := by decide

/-- No digraph that opens a text is longer than the head of its first grapheme. -/
theorem DigraphTable.length_le_extent {table : DigraphTable} {t : Text} {d : Text × Text}
    (hd : d ∈ table.readable) (opening : DigraphTable.opens d.1 t = true) :
    d.1.length ≤ table.extent t + 1 := by
  rw [DigraphTable.extent]
  cases reached : table.reach t with
  | none =>
    rw [DigraphTable.reach_eq_none_iff.1 reached d hd] at opening
    exact absurd opening (by simp)
  | some n =>
    have longest := (DigraphTable.reach_eq_some_iff.1 reached).2 d hd opening
    rw [Option.getD_some]
    omega

theorem DigraphTable.extent_le_length (table : DigraphTable) (c : Char) (t : Text) :
    table.extent (c :: t) ≤ t.length := by
  rw [DigraphTable.extent]
  cases reached : table.reach (c :: t) with
  | none => simp
  | some n =>
    obtain ⟨⟨d, _, opening, length⟩, _⟩ := DigraphTable.reach_eq_some_iff.1 reached
    have inside := DigraphTable.length_le_of_opens opening
    rw [List.length_cons] at inside
    rw [Option.getD_some]
    omega

/-! ## The first grapheme -/

/-- The first grapheme of a text can be told by the length of its head. -/
theorem graphemes_eq_cons {table : DigraphTable} {t head marks u : Text}
    (whole : t = head ++ (marks ++ u)) (length : head.length = table.extent t + 1)
    (marked : ∀ m ∈ marks, isMark m = true) (unmarked : ∀ d ∈ u.head?, isMark d = false) :
    graphemes table isMark t =
      { head, isDigraph := (table.reach t).isSome, trail := marks } :: graphemes table isMark u := by
  obtain ⟨c, rest, rfl⟩ := List.exists_cons_of_length_eq_add_one length
  rw [List.cons_append] at whole
  have same : table.extent t = rest.length := by
    rw [List.length_cons] at length
    omega
  -- Where `u` starts, the marks stop.
  have stops : u.takeWhile isMark = [] ∧ u.dropWhile isMark = u := by
    cases u with
    | nil => exact ⟨rfl, rfl⟩
    | cons d u => simp [unmarked d rfl]
  rw [whole] at same ⊢
  rw [graphemes_cons, firstGrapheme, afterFirst, same, List.take_left, List.drop_left,
    List.takeWhile_append_of_pos marked, List.dropWhile_append_of_pos marked, stops.1, stops.2,
    List.append_nil]

theorem length_head_firstGrapheme (table : DigraphTable) (c : Char) (t : Text) :
    (firstGrapheme table c t).head.length = table.extent (c :: t) + 1 := by
  rw [firstGrapheme, List.length_cons, List.length_take,
    Nat.min_eq_left (table.extent_le_length c t)]

/-- A grapheme stands at the start of a text if the same digraph is read there and no mark follows
    it. -/
theorem graphemes_text_append {table : DigraphTable} {c : Char} {t u : Text}
    (reached : table.reach ((firstGrapheme table c t).text ++ u) = table.reach (c :: t))
    (unmarked : ∀ d ∈ u.head?, isMark d = false) :
    graphemes table isMark ((firstGrapheme table c t).text ++ u) =
      firstGrapheme table c t :: graphemes table isMark u := by
  have whole : (firstGrapheme table c t).text ++ u =
      (firstGrapheme table c t).head ++ ((firstGrapheme table c t).trail ++ u) := by
    rw [Grapheme.text, List.append_assoc]
  have length : (firstGrapheme table c t).head.length =
      table.extent ((firstGrapheme table c t).text ++ u) + 1 := by
    rw [length_head_firstGrapheme, DigraphTable.extent, DigraphTable.extent, reached]
  rw [graphemes_eq_cons whole length (isMark_of_mem_trail table c t) unmarked, reached]
  rfl

theorem DigraphTable.standIn?_nil {table : DigraphTable} (filled : ∀ d ∈ table, d.1 ≠ []) :
    table.standIn? [] = none := by
  rw [DigraphTable.standIn?, Text.lower_nil, List.lookup_eq_none_iff]
  exact fun d hd => by simpa using (filled d hd).symm

/-- Without a stand-in for the empty spelling, the key of a letter is its base in lower case. -/
theorem Grapheme.key_of_letter {table : DigraphTable} (filled : ∀ d ∈ table, d.1 ≠ [])
    {g : Grapheme} (letter : g.isDigraph = false) : g.key table = g.text.base.lower := by
  simp [Grapheme.key, letter, DigraphTable.standIn?_nil filled]

theorem extent_lt_length_text (table : DigraphTable) (c : Char) (t : Text) :
    table.extent (c :: t) < (firstGrapheme table c t).text.length := by
  rw [Grapheme.text, List.length_append, length_head_firstGrapheme]
  omega

/-! ## Cutting -/

/-- The graphemes after a cut are those of the text after it. -/
theorem graphemes_drop (table : DigraphTable) (t : Text) (k : Nat) :
    graphemes table isMark (((graphemes table isMark t).drop k).flatMap Grapheme.text) =
      (graphemes table isMark t).drop k := by
  induction t using graphemes_induction table generalizing k with
  | nil => simp
  | cons c t ih =>
    cases k with
    | zero => rw [List.drop_zero, flatMap_text_graphemes]
    | succ k =>
      rw [graphemes_cons, List.drop_succ_cons]
      exact ih k

/-- A text that is cut after its first grapheme, or later, begins with this grapheme. -/
theorem graphemes_text_append_of_isPrefix {table : DigraphTable} {c : Char} {t before : Text}
    (h : before <+: afterFirst table c t) :
    graphemes table isMark ((firstGrapheme table c t).text ++ before) =
      firstGrapheme table c t :: graphemes table isMark before := by
  obtain ⟨after, split⟩ := h
  have whole : ((firstGrapheme table c t).text ++ before) ++ after = c :: t := by
    rw [List.append_assoc, split]
    exact text_firstGrapheme_append table c t
  apply graphemes_text_append
  · rw [← whole]
    refine (DigraphTable.reach_append fun d hd opening => ?_).symm
    rw [whole] at opening
    have longest := DigraphTable.length_le_extent hd opening
    have inside := extent_lt_length_text table c t
    rw [List.length_append]
    omega
  · intro d hd
    apply isMark_head?_afterFirst table c t d
    rw [← split, List.head?_append, Option.mem_def.1 hd]
    rfl

/-- The graphemes before a cut are those of the text before it. -/
theorem graphemes_take (table : DigraphTable) (t : Text) (k : Nat) :
    graphemes table isMark (((graphemes table isMark t).take k).flatMap Grapheme.text) =
      (graphemes table isMark t).take k := by
  induction t using graphemes_induction table generalizing k with
  | nil => simp
  | cons c t ih =>
    cases k with
    | zero => simp
    | succ k =>
      have begins : ((graphemes table isMark (afterFirst table c t)).take k).flatMap
          Grapheme.text <+: afterFirst table c t := by
        conv_rhs => rw [← flatMap_text_graphemes table isMark (afterFirst table c t)]
        exact (List.take_prefix k _).flatMap Grapheme.text
      rw [graphemes_cons, List.take_succ_cons, List.flatMap_cons,
        graphemes_text_append_of_isPrefix begins, ih k]

/-- No text is cut in front of a mark, its beginning apart. -/
theorem isMark_head?_drop_graphemes (table : DigraphTable) (t : Text) (k : Nat) :
    ∀ d ∈ (((graphemes table isMark t).drop (k + 1)).flatMap Grapheme.text).head?,
      isMark d = false := by
  induction t using graphemes_induction table generalizing k with
  | nil => simp
  | cons c t ih =>
    rw [graphemes_cons, List.drop_succ_cons]
    cases k with
    | zero =>
      rw [List.drop_zero, flatMap_text_graphemes]
      exact isMark_head?_afterFirst table c t
    | succ k => exact ih k

/-! ## Putting together -/

/-- Every digraph of a table begins with digraphs of the table, single letters aside. -/
def DigraphTable.HasBeginnings (table : DigraphTable) : Prop :=
  ∀ d ∈ table.readable, ∀ n < d.1.length, 2 ≤ n → ∃ e ∈ table.readable, e.1 = d.1.take n

theorem DigraphTable.hasBeginnings_rules : DigraphTable.rules.HasBeginnings := by
  rw [DigraphTable.HasBeginnings, DigraphTable.readable_rules]
  decide +kernel

theorem DigraphTable.hasBeginnings_words : DigraphTable.words.HasBeginnings := by
  rw [DigraphTable.HasBeginnings, DigraphTable.readable_words]
  decide +kernel

theorem DigraphTable.opens_take {spelling t : Text} (n : Nat)
    (h : DigraphTable.opens spelling t = true) : DigraphTable.opens (spelling.take n) t = true := by
  induction spelling generalizing t n with
  | nil => simp [DigraphTable.opens]
  | cons k spelling ih =>
    cases n with
    | zero => rfl
    | succ n =>
      cases t with
      | nil => simp [DigraphTable.opens] at h
      | cons c t =>
        rw [DigraphTable.opens, Bool.and_eq_true] at h
        rw [List.take_succ_cons, DigraphTable.opens, Bool.and_eq_true]
        exact ⟨h.1, ih n h.2⟩

/-- No digraph goes on from a grapheme into a text. -/
def Grapheme.EndsBefore (table : DigraphTable) (g : Grapheme) (b : Text) : Prop :=
  ∀ d ∈ table.readable, DigraphTable.opens d.1 (g.text ++ b) = true → d.1.length ≤ g.text.length

/-- Only the last grapheme of a text can go on into what follows the text. -/
theorem length_le_of_opens_append {table : DigraphTable} (beginnings : table.HasBeginnings)
    {c : Char} {t b : Text}
    (ends : afterFirst table c t = [] → (firstGrapheme table c t).EndsBefore table b) :
    ∀ d ∈ table.readable, DigraphTable.opens d.1 (c :: t ++ b) = true →
      d.1.length ≤ (c :: t).length := by
  intro d hd opening
  have split := text_firstGrapheme_append table c t
  by_cases last : afterFirst table c t = []
  · rw [last, List.append_nil] at split
    rw [← split] at opening ⊢
    exact ends last d hd opening
  · by_contra longer
    rw [Nat.not_le] at longer
    have more := List.length_pos_iff.2 last
    have lengths := congrArg List.length split
    have inside := extent_lt_length_text table c t
    rw [List.length_append] at lengths
    -- The part of the digraph that is in the text is a digraph itself, and longer than the first
    -- grapheme.
    obtain ⟨e, he, beginning⟩ := beginnings d hd (c :: t).length longer (by omega)
    have opensWhole := DigraphTable.opens_take (c :: t).length opening
    rw [← beginning] at opensWhole
    have length : e.1.length = (c :: t).length := by
      rw [beginning, List.length_take, Nat.min_eq_left (Nat.le_of_lt longer)]
    have opensText := (DigraphTable.opens_iff_append b).2 ⟨opensWhole, Nat.le_of_eq length⟩
    have short := DigraphTable.length_le_extent he opensText
    omega

/-- Two texts that are put together are read as they are read apart if the second one does not
    start with a mark, and the last grapheme of the first one ends before it. -/
theorem graphemes_append {table : DigraphTable} (beginnings : table.HasBeginnings) {a b : Text}
    (unmarked : ∀ d ∈ b.head?, isMark d = false)
    (ends : ∀ g ∈ (graphemes table isMark a).getLast?, g.EndsBefore table b) :
    graphemes table isMark (a ++ b) = graphemes table isMark a ++ graphemes table isMark b := by
  induction a using graphemes_induction table with
  | nil => simp
  | cons c t ih =>
    rw [graphemes_cons] at ends ⊢
    have later : graphemes table isMark (afterFirst table c t ++ b) =
        graphemes table isMark (afterFirst table c t) ++ graphemes table isMark b := by
      refine ih fun g hg => ends g ?_
      rw [List.getLast?_cons, Option.mem_def.1 hg]
      rfl
    have reached : table.reach (c :: t ++ b) = table.reach (c :: t) := by
      refine DigraphTable.reach_append (length_le_of_opens_append beginnings fun last => ends _ ?_)
      rw [last, graphemes_nil]
      rfl
    have unmarkedRest : ∀ d ∈ (afterFirst table c t ++ b).head?, isMark d = false := by
      intro d hd
      rw [List.head?_append, Option.mem_def, Option.or_eq_some_iff] at hd
      rcases hd with rest | ⟨_, begins⟩
      · exact isMark_head?_afterFirst table c t d rest
      · exact unmarked d begins
    have whole : c :: t ++ b = (firstGrapheme table c t).text ++ (afterFirst table c t ++ b) := by
      rw [← List.append_assoc, text_firstGrapheme_append]
    rw [whole] at reached ⊢
    rw [graphemes_text_append reached unmarkedRest, later]
    rfl

end SoundLaw
