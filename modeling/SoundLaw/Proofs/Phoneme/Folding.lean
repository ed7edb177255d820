/-
  SoundLaw.Proofs.Phoneme.Folding

  Folding a word and reading its phonemes. Folding looks for a digraph at every character of a word;
  a phoneme takes the marks after its head along without looking at them. The two cut a word alike
  if none of its marks opens a digraph (`DigraphTable.LeavesMarks`), and then a word is folded
  phoneme by phoneme (`fold?_eq_flatMap_folded`).

  Marks can open digraphs although no digraph is spelled with one at its beginning: leaving case
  aside, the subscript iota `U+0345` is an iota.
-/
import SoundLaw.Proofs.Phoneme.Cut

namespace SoundLaw

/-! ## Marks that open no digraph -/

/-- No mark of a text is, case aside, the first letter of a spelling of the table. -/
def DigraphTable.LeavesMarks (table : DigraphTable) (t : Text) : Prop :=
  ∀ c ∈ t, isMark c = true → ∀ d ∈ table, ∀ k ∈ d.1.head?, sameLetter c k = false

instance (table : DigraphTable) (t : Text) : Decidable (table.LeavesMarks t) :=
  decidable_of_iff ((t.filter isMark).all (fun c =>
      table.all fun d => d.1.head?.toList.all fun k => !sameLetter c k) = true) (by
    simp only [DigraphTable.LeavesMarks, List.all_eq_true, List.mem_filter, Option.mem_toList,
      Option.mem_def, Bool.not_eq_true', and_imp])

theorem DigraphTable.LeavesMarks.mono {table : DigraphTable} {t u : Text} (h : table.LeavesMarks t)
    (part : ∀ c ∈ u, c ∈ t) : table.LeavesMarks u :=
  fun c hc => h c (part c hc)

theorem DigraphTable.LeavesMarks.reach_eq_none {table : DigraphTable} {c : Char} {t : Text}
    (h : table.LeavesMarks t) (member : c ∈ t) (mark : isMark c = true) (rest : Text) :
    table.reach (c :: rest) = none := by
  rw [DigraphTable.reach_eq_none_iff]
  intro d hd
  obtain ⟨listed, filled⟩ := DigraphTable.mem_of_mem_readable hd
  obtain ⟨k, spelling, whole⟩ := List.exists_cons_of_ne_nil filled
  rw [whole, DigraphTable.opens, h c member mark d listed k (by simp [whole]), Bool.false_and]

/-! ## Graphemes without trails -/

/-- A character that stands by itself. -/
def Grapheme.single (c : Char) : Grapheme where
  head := [c]
  isDigraph := false
  trail := []

/-- A grapheme without its trail, and each character of the trail by itself. -/
def Grapheme.apart (g : Grapheme) : List Grapheme :=
  { g with trail := [] } :: g.trail.map Grapheme.single

theorem graphemes_without_trails_cons (table : DigraphTable) (c : Char) (t : Text) :
    graphemes table (fun _ => false) (c :: t) =
      { firstGrapheme table c t with trail := [] } ::
        graphemes table (fun _ => false) (t.drop (table.extent (c :: t))) := by
  have none (u : Text) : u.takeWhile (fun _ => false) = [] ∧ u.dropWhile (fun _ => false) = u := by
    cases u <;> simp
  rw [graphemes]
  simp only [none]
  rfl

/-- Characters that open no digraph are read one by one. -/
theorem graphemes_singles_append {table : DigraphTable} {us t : Text}
    (unread : ∀ c ∈ us, ∀ rest, table.reach (c :: rest) = none) :
    graphemes table (fun _ => false) (us ++ t) =
      us.map Grapheme.single ++ graphemes table (fun _ => false) t := by
  induction us with
  | nil => rfl
  | cons c us ih =>
    obtain ⟨here, later⟩ := List.forall_mem_cons.1 unread
    rw [List.cons_append, graphemes_without_trails_cons, List.map_cons, List.cons_append,
      DigraphTable.extent, here, Option.getD_none, Nat.sub_self, List.drop_zero, ih later]
    simp [firstGrapheme, Grapheme.single, DigraphTable.extent, here]

/-- Whether or not marks trail the letters before them, the same digraphs are read. -/
theorem graphemes_without_trails {table : DigraphTable} {t : Text} (leaves : table.LeavesMarks t) :
    graphemes table (fun _ => false) t = (graphemes table isMark t).flatMap Grapheme.apart := by
  fun_induction graphemes table isMark t with
  | case1 => rw [graphemes_nil, List.flatMap_nil]
  | case2 c t rest ih =>
    have inside : ∀ d ∈ rest, d ∈ c :: t :=
      fun d hd => List.mem_cons_of_mem c (List.mem_of_mem_drop hd)
    have later := ih (leaves.mono fun d hd => inside d ((List.dropWhile_suffix isMark).subset hd))
    have split : rest = rest.takeWhile isMark ++ rest.dropWhile isMark :=
      List.takeWhile_append_dropWhile.symm
    -- The marks that trail the head are looked at one after the other, and open nothing.
    have unread : ∀ d ∈ rest.takeWhile isMark, ∀ u, table.reach (d :: u) = none := fun d hd =>
      leaves.reach_eq_none (inside d ((List.takeWhile_prefix isMark).subset hd))
        (List.all_eq_true.1 List.all_takeWhile d hd)
    rw [graphemes_without_trails_cons, List.flatMap_cons, ← later]
    show { firstGrapheme table c t with trail := [] } :: graphemes table (fun _ => false) rest =
      { firstGrapheme table c t with trail := [] } ::
        ((rest.takeWhile isMark).map Grapheme.single ++ _)
    rw [← graphemes_singles_append unread, ← split]

/-! ## Folding by graphemes -/

/-- A grapheme in a folded text: its head as one phoneme, and its trail as it is written. -/
def Grapheme.folded (table : DigraphTable) (g : Grapheme) : Text := g.phoneme table ++ g.trail

theorem Grapheme.flatMap_phoneme_apart (table : DigraphTable) (g : Grapheme) :
    g.apart.flatMap (Grapheme.phoneme table) = g.folded table := by
  have singles : (g.trail.map Grapheme.single).flatMap (Grapheme.phoneme table) = g.trail := by
    rw [List.flatMap_map]
    exact List.flatMap_singleton' g.trail
  rw [Grapheme.apart, List.flatMap_cons, singles]
  rfl

theorem Grapheme.findSome?_unlisted?_apart (table : DigraphTable) (g : Grapheme) :
    g.apart.findSome? (Grapheme.unlisted? table) = g.unlisted? table := by
  have singles : (g.trail.map Grapheme.single).findSome? (Grapheme.unlisted? table) = none := by
    simp [Grapheme.single, Grapheme.unlisted?]
  have head : Grapheme.unlisted? table { g with trail := [] } = g.unlisted? table := rfl
  rw [Grapheme.apart, List.findSome?_cons, singles, head]
  cases g.unlisted? table <;> rfl

theorem firstUnlisted?_flatMap_apart (table : DigraphTable) (gs : List Grapheme) :
    firstUnlisted? table (gs.flatMap Grapheme.apart) = firstUnlisted? table gs := by
  induction gs with
  | nil => rfl
  | cons g gs ih =>
    rw [firstUnlisted?, firstUnlisted?] at ih ⊢
    rw [List.flatMap_cons, List.findSome?_append, Grapheme.findSome?_unlisted?_apart, ih,
      List.findSome?_cons]
    cases g.unlisted? table <;> rfl

/-- Without a stand-in for the empty spelling, folding puts nothing between what it replaces. -/
theorem fold_eq_flatMap_phoneme {table : DigraphTable} (filled : ∀ d ∈ table, d.1 ≠ []) (t : Text) :
    t.fold table =
      (graphemes table (fun _ => false) t).flatMap (Grapheme.phoneme table) := by
  have noFiller : (table.standIn? []).getD [] = [] := by
    rw [DigraphTable.standIn?_nil filled, Option.getD_none]
  simp only [Text.fold, noFiller, List.nil_append, ite_self, List.append_nil]

theorem fold_nil {table : DigraphTable} (filled : ∀ d ∈ table, d.1 ≠ []) :
    Text.fold table [] = [] := by
  rw [fold_eq_flatMap_phoneme filled, graphemes_nil, List.flatMap_nil]

/-- A text is folded grapheme by grapheme. -/
theorem fold_eq_flatMap_folded {table : DigraphTable} {t : Text} (filled : ∀ d ∈ table, d.1 ≠ [])
    (leaves : table.LeavesMarks t) :
    t.fold table = (graphemes table isMark t).flatMap (Grapheme.folded table) := by
  rw [fold_eq_flatMap_phoneme filled, graphemes_without_trails leaves, List.flatMap_assoc]
  exact List.flatMap_congr fun g _ => g.flatMap_phoneme_apart table

/-! ## Folding by phonemes -/

/-- A phoneme in a folded word: the stand-in of a digraph, with the marks that the phoneme has
    taken along, or the text of any other phoneme. -/
def Phoneme.folded (table : DigraphTable) (word : Text) (p : Phoneme) : Text :=
  match table.reach (word.drop p.start) with
  | some n => p.key ++ p.text.drop n
  | none => p.text

/-- The digraph that is reached ends where the marks after it begin. -/
theorem text_firstGrapheme_of_reach {table : DigraphTable} {c : Char} {t : Text} {n : Nat}
    (reached : table.reach (c :: t) = some n) :
    (firstGrapheme table c t).text.take n = (firstGrapheme table c t).head ∧
      (firstGrapheme table c t).text.drop n = (firstGrapheme table c t).trail := by
  obtain ⟨⟨d, _, opening, rfl⟩, _⟩ := DigraphTable.reach_eq_some_iff.1 reached
  have length : (firstGrapheme table c t).head.length = d.1.length := by
    rw [(firstGrapheme_of_reach reached).2, List.length_take,
      Nat.min_eq_left (DigraphTable.length_le_of_opens opening)]
  exact ⟨List.take_left' length, List.drop_left' length⟩

/-- The first phoneme of what is left of a word is folded like its first grapheme. -/
theorem folded_at (table : DigraphTable) (before : Text) (c : Char) (t : Text) :
    ((firstGrapheme table c t).at table before.length).folded table (before ++ c :: t) =
      (firstGrapheme table c t).folded table := by
  rw [Phoneme.folded, Grapheme.at, List.drop_left]
  -- The phoneme asks again whether a digraph opens the text where it starts.
  cases reached : table.reach (c :: t) with
  | none =>
    have plain := (firstGrapheme_of_reach_eq_none reached).1
    simp [Grapheme.folded, Grapheme.phoneme, Grapheme.text, plain]
  | some n =>
    have digraph := (firstGrapheme_of_reach reached).1
    have trail := (text_firstGrapheme_of_reach reached).2
    simp [Grapheme.folded, Grapheme.key, digraph, trail]

theorem flatMap_folded_phonemesFrom (table : DigraphTable) (before t : Text) :
    (phonemesFrom table before.length (graphemes table isMark t)).flatMap
        (Phoneme.folded table (before ++ t)) =
      (graphemes table isMark t).flatMap (Grapheme.folded table) := by
  -- Along the graphemes: what is read goes over from `t` to `before`.
  induction t using graphemes_induction table generalizing before with
  | nil => simp [phonemesFrom]
  | cons c t ih =>
    have later := ih (before ++ (firstGrapheme table c t).text)
    rw [List.append_assoc, text_firstGrapheme_append, List.length_append] at later
    rw [graphemes_cons, phonemesFrom, List.flatMap_cons, List.flatMap_cons]
    exact congrArg₂ (· ++ ·) (folded_at table before c t) later

/-- A word is folded phoneme by phoneme, and cannot be folded if its phonemes cannot be read: each
    digraph becomes its stand-in, and what a phoneme takes along after a digraph are marks. -/
theorem fold?_eq_flatMap_folded {table : DigraphTable} {word : Text}
    (filled : ∀ d ∈ table, d.1 ≠ []) (leaves : table.LeavesMarks word) :
    word.fold? table =
        (phonemes? table word).map (fun ps => ps.flatMap (Phoneme.folded table word)) ∧
      ∀ ps, phonemes? table word = .ok ps → ∀ p ∈ ps, ∀ n,
        table.reach (word.drop p.start) = some n →
          table.standIn? (p.text.take n) = some p.key ∧ ∀ c ∈ p.text.drop n, isMark c = true := by
  constructor
  · have folded : word.fold table =
        (phonemes table word).flatMap (Phoneme.folded table word) := by
      rw [fold_eq_flatMap_folded filled leaves]
      exact (flatMap_folded_phonemesFrom table [] word).symm
    -- Both look for the first digraph without a stand-in, and find the same one.
    rw [Text.fold?, phonemes?, graphemes_without_trails leaves, firstUnlisted?_flatMap_apart]
    cases firstUnlisted? table (graphemes table isMark word) with
    | some spelling => rfl
    | none => rw [folded]; rfl
  · intro ps read p hp n reached
    obtain ⟨rfl, listed⟩ := phonemes?_eq_ok_iff.1 read
    obtain ⟨before, c, t, whole, member, rfl⟩ := exists_firstGrapheme_of_mem table [] word p hp
    rw [List.nil_append] at whole
    rw [← whole, Grapheme.at, List.drop_left] at reached
    obtain ⟨head, trail⟩ := text_firstGrapheme_of_reach reached
    constructor
    · rw [Grapheme.at, head]
      exact Grapheme.standIn?_eq_some_key (firstGrapheme_of_reach reached).1 (listed _ member)
    · rw [Grapheme.at, trail]
      exact isMark_of_mem_trail table c t

-- A mark that starts the word, a digraph in capitals, and marks after a digraph and a letter.
theorem fold?_eq_flatMap_folded_of_marked_word :
    (∀ d ∈ DigraphTable.words, d.1 ≠ []) ∧
      DigraphTable.words.LeavesMarks ['\u0301', 'K', 'ʰ', 'w', '\u0304', 'A', '\u0308'] ∧
      ∃ ps, phonemes? DigraphTable.words ['\u0301', 'K', 'ʰ', 'w', '\u0304', 'A', '\u0308'] = .ok ps ∧
        ps.map (Phoneme.folded DigraphTable.words
            ['\u0301', 'K', 'ʰ', 'w', '\u0304', 'A', '\u0308']) =
          [['\u0301'], ['ꝃ', '\u0304'], ['A', '\u0308']] ∧
        Text.fold? DigraphTable.words ['\u0301', 'K', 'ʰ', 'w', '\u0304', 'A', '\u0308'] =
          .ok ['\u0301', 'ꝃ', '\u0304', 'A', '\u0308'] := by
  have filled : ∀ d ∈ DigraphTable.words, d.1 ≠ [] := by decide
  have leaves : DigraphTable.words.LeavesMarks
      ['\u0301', 'K', 'ʰ', 'w', '\u0304', 'A', '\u0308'] := by
    decide +kernel
  have listed : ∀ g ∈ graphemes DigraphTable.words isMark
      ['\u0301', 'K', 'ʰ', 'w', '\u0304', 'A', '\u0308'],
      g.unlisted? DigraphTable.words = none := by decide +kernel
  have read := phonemes?_eq_ok_iff.2 ⟨rfl, listed⟩
  have folded : (phonemes DigraphTable.words
      ['\u0301', 'K', 'ʰ', 'w', '\u0304', 'A', '\u0308']).map (Phoneme.folded DigraphTable.words
        ['\u0301', 'K', 'ʰ', 'w', '\u0304', 'A', '\u0308']) =
          [['\u0301'], ['ꝃ', '\u0304'], ['A', '\u0308']] := by decide +kernel
  refine ⟨filled, leaves, _, read, folded, ?_⟩
  rw [(fold?_eq_flatMap_folded filled leaves).1, read, Except.map, List.flatMap_def, folded]
  rfl

/-- The subscript iota is an iota, case aside. After a letter it is a mark, which the phoneme of the
    letter takes along; folding sees it open a digraph, and finds no stand-in for it. -/
theorem fold?_opens_at_subscriptIota :
    (∀ d ∈ [(['ι', 'a'], ['j'])], d.1 ≠ [] ∧ ∀ k ∈ d.1.head?, isMark k = false) ∧
      phonemes? [(['ι', 'a'], ['j'])] ['b', '\u0345', 'a'] =
        .ok [⟨['b', '\u0345'], ['b'], ['\u0345'], 0, 2⟩, ⟨['a'], ['a'], [], 2, 3⟩] ∧
      Text.fold? [(['ι', 'a'], ['j'])] ['b', '\u0345', 'a'] =
        .error (.unlistedDigraph ['\u0345', 'a']) := by
  refine ⟨?_, phonemes?_eq_ok_iff.2 ⟨?_, ?_⟩, ?_⟩
  · rw [List.forall_mem_singleton]
    refine ⟨List.cons_ne_nil 'ι' ['a'], ?_⟩
    rintro k ⟨⟩
    decide +kernel
  · decide +kernel
  · decide +kernel
  · have unlisted : firstUnlisted? [(['ι', 'a'], ['j'])]
        (graphemes [(['ι', 'a'], ['j'])] (fun _ => false) ['b', '\u0345', 'a']) =
          some ['\u0345', 'a'] := by decide +kernel
    rw [Text.fold?, unlisted]

end SoundLaw
