/-
  SoundLaw.Proofs.Phoneme.CanonicalForms

  The phonemes of a word in its two canonical forms. Hangul syllables apart, a letter with marks
  stays one letter with marks when it is composed or decomposed, so the two forms are cut before the
  same letters; and a digraph of the composed form is one of the decomposed form too, because its
  letters have no marks between them and are not composed themselves. The converse can fail: a mark
  after a digraph may compose with its last letter. Where this does not happen, the phonemes of the two
  forms correspond one by one (`alike_phonemes`).
-/
import SoundLaw.Proofs.Spelling.DigraphLetters

namespace SoundLaw

/-! ## Hangul syllables -/

theorem hangulLetters?_of_hangulSyllable? {first second joined : Char}
    (h : hangulSyllable? first second = some joined) : (hangulLetters? joined).isSome = true := by
  have syllable : ∀ n, 0xAC00 ≤ n → n < 0xAC00 + 19 * 21 * 28 →
      (hangulLetters? (Char.ofNat n)).isSome = true := by
    intro n low high
    have same := toNat_ofNat_of_isValidChar (n := n) (Or.inl (by omega))
    rw [hangulLetters?, same, if_pos (by simp only [Bool.and_eq_true, decide_eq_true_eq]; omega)]
    dsimp only
    split <;> rfl
  unfold hangulSyllable? at h
  dsimp only at h
  split at h
  · next bounds =>
    simp only [Bool.and_eq_true, decide_eq_true_eq] at bounds
    rw [← Option.some.inj h]
    exact syllable _ (by omega) (by omega)
  · split at h
    · next bounds =>
      simp only [Bool.and_eq_true, decide_eq_true_eq, beq_iff_eq] at bounds
      rw [← Option.some.inj h]
      exact syllable _ (by omega) (by omega)
    · exact absurd h (by simp)

/-- A Hangul syllable composes to another one only. -/
theorem isSome_hangulLetters?_of_composite? {first second joined : Char}
    (joins : composite? first second = some joined)
    (syllable : (hangulLetters? first).isSome = true) :
    (hangulLetters? joined).isSome = true := by
  rw [composite?, Option.or_eq_some_iff] at joins
  rcases joins with hangul | ⟨_, primary⟩
  · exact hangulLetters?_of_hangulSyllable? hangul
  · -- No row of the table of composites is about a Hangul syllable.
    obtain ⟨row, found, held⟩ := Option.bind_eq_some_iff.1 primary
    obtain ⟨n, found', rfl⟩ := Option.map_eq_some_iff.1 held
    have checked := List.all_eq_true.1 decomposedCodes_composites _ (CodeMap.mem_of_find? found)
    rw [Bool.and_eq_true] at checked
    have listed := List.all_eq_true.1 checked.2 _ (CodeMap.mem_of_find? found')
    simp only [Bool.and_eq_true] at listed
    have none := (toNat_ofNat_of_isListable listed.1.1).2
    rw [Char.ofNat_toNat] at none
    rw [none] at syllable
    exact absurd syllable (by simp)

/-- What is composed onto a Hangul syllable has one in it. -/
theorem exists_syllable_composeOnto (starter : Char) (kept t : Text)
    (syllable : (hangulLetters? starter).isSome = true) :
    ∃ c ∈ composeOnto starter kept t, (hangulLetters? c).isSome = true := by
  fun_induction composeOnto starter kept t with
  | case1 starter kept => exact ⟨starter, List.mem_cons_self, syllable⟩
  | case2 starter kept c t joined found ih =>
    split at found
    · exact ih (isSome_hangulLetters?_of_composite? found syllable)
    · exact absurd found (by simp)
  | case3 starter kept c t blocked startsAgain ih => exact ⟨starter, by simp, syllable⟩
  | case4 starter kept c t blocked mark ih => exact ih syllable

/-- Where nothing composes to a Hangul syllable, texts that are put together are composed apart. -/
theorem Text.nfc_append_of_single {a b : Text} (letter : ∀ c ∈ b.head?, isMark c = false)
    (single : ∀ c ∈ (a ++ b).nfc, hangulLetters? c = none) : (a ++ b).nfc = a.nfc ++ b.nfc := by
  cases b with
  | nil => simp
  | cons c b =>
    obtain ⟨d, y, first, plain, _⟩ := Text.exists_nfd_eq_cons (letter c rfl) b
    have starter := combiningClass_of_not_isMark plain
    rw [Text.nfc, Text.nfd_append letter, first] at single ⊢
    rw [Text.nfc, Text.nfc, first]
    rcases composeMarks_append_cases a.nfd starter y with
      split | ⟨front, e, joined, _, meets, whole⟩
    · exact split
    · -- Two letters compose to a Hangul syllable only.
      rw [composite?_of_not_isMark plain] at meets
      obtain ⟨h, inside, syllable⟩ := exists_syllable_composeOnto joined [] y
        (hangulLetters?_of_hangulSyllable? meets)
      rw [single h (by rw [whole]; exact List.mem_append_right front inside)] at syllable
      exact absurd syllable (by simp)

/-! ## Composed and decomposed texts -/

theorem mem_composeOnto {c starter : Char} {kept t : Text} (h : c ∈ composeOnto starter kept t) :
    c = starter ∨ c ∈ kept ∨ c ∈ t ∨ 2 ≤ (decompose c).length := by
  fun_induction composeOnto starter kept t with
  | case1 starter kept =>
    rcases List.mem_cons.1 h with same | before
    · exact Or.inl same
    · exact Or.inr (Or.inl (List.mem_reverse.1 before))
  | case2 starter kept d t joined found ih =>
    -- A joined character decomposes to all that the two before it decompose to.
    rcases ih h with rfl | before | later | long
    · split at found
      · have one := length_decompose_pos starter
        have two := length_decompose_pos d
        rw [decompose_of_composite? found, List.length_append]
        omega
      · exact absurd found (by simp)
    · exact Or.inr (Or.inl before)
    · exact Or.inr (Or.inr (Or.inl (List.mem_cons_of_mem d later)))
    · exact Or.inr (Or.inr (Or.inr long))
  | case3 starter kept d t blocked startsAgain ih =>
    simp only [List.cons_append, List.mem_cons, List.mem_append, List.mem_reverse] at h
    rcases h with same | before | later
    · exact Or.inl same
    · exact Or.inr (Or.inl before)
    · rcases ih later with rfl | none | later | long
      · exact Or.inr (Or.inr (Or.inl List.mem_cons_self))
      · exact absurd none (by simp)
      · exact Or.inr (Or.inr (Or.inl (List.mem_cons_of_mem d later)))
      · exact Or.inr (Or.inr (Or.inr long))
  | case4 starter kept d t blocked mark ih =>
    rcases ih h with same | before | later | long
    · exact Or.inl same
    · rcases List.mem_cons.1 before with rfl | before
      · exact Or.inr (Or.inr (Or.inl List.mem_cons_self))
      · exact Or.inr (Or.inl before)
    · exact Or.inr (Or.inr (Or.inl (List.mem_cons_of_mem d later)))
    · exact Or.inr (Or.inr (Or.inr long))

/-- A character of a composed text does not decompose, or decomposes to several. -/
theorem decompose_cases_of_mem_nfc {c : Char} {t : Text} (h : c ∈ t.nfc) :
    decompose c = [c] ∨ 2 ≤ (decompose c).length := by
  rw [Text.nfc] at h
  have final : ∀ d ∈ t.nfd, decompose d = [d] := fun d hd => decompose_eq_self_of_mem_nfd hd
  cases split : t.nfd with
  | nil => simp [split, composeMarks] at h
  | cons d rest =>
    rw [split] at h final
    rcases mem_composeOnto h with rfl | none | later | long
    · exact Or.inl (final c List.mem_cons_self)
    · exact absurd none (by simp)
    · exact Or.inl (final c (List.mem_cons_of_mem d later))
    · exact Or.inr long

theorem decompose_eq_self_of_mem_nfc {c : Char} {t : Text} (h : c ∈ t.nfc)
    (single : (decompose c).length = 1) : decompose c = [c] :=
  (decompose_cases_of_mem_nfc h).resolve_right (by omega)

/-- What is composed onto a starter begins with a mark exactly if the starter is one. -/
theorem exists_head_composeOnto (starter : Char) (kept t : Text) :
    ∃ c rest, composeOnto starter kept t = c :: rest ∧ isMark c = isMark starter := by
  fun_induction composeOnto starter kept t with
  | case1 starter kept => exact ⟨starter, kept.reverse, rfl, rfl⟩
  | case2 starter kept c t joined found ih =>
    obtain ⟨d, rest, whole, same⟩ := ih
    split at found
    · exact ⟨d, rest, whole, same.trans (isMark_of_composite? found)⟩
    · exact absurd found (by simp)
  | case3 starter kept c t blocked startsAgain ih => exact ⟨starter, _, rfl, rfl⟩
  | case4 starter kept c t blocked mark ih => exact ih

/-- A letter at the start stays one. -/
theorem isMark_head?_nfc {t : Text} (letter : ∀ c ∈ t.head?, isMark c = false) :
    ∀ c ∈ t.nfc.head?, isMark c = false := by
  cases t with
  | nil => simp
  | cons c t =>
    obtain ⟨d, rest, whole, plain, _⟩ := Text.exists_nfd_eq_cons (letter c rfl) t
    obtain ⟨e, later, composed, same⟩ := exists_head_composeOnto d [] rest
    rw [Text.nfc, whole, composeMarks, composed]
    exact fun x hx => Option.mem_some_iff.1 hx ▸ same.trans plain

/-- Bare letters in front of a composed text are in front of the decomposed one. -/
theorem nfd_of_nfc_eq_append {t u v : Text} (bare : ∀ c ∈ u, IsBareLetter c)
    (composed : t.nfc = u ++ v) : t.nfd = u ++ v.nfd := by
  have final : u.flatMap decompose = u := by
    refine flatMap_decompose_eq_self fun c hc => ?_
    have inText : c ∈ t.nfc := by
      rw [composed]
      exact List.mem_append_left v hc
    exact decompose_eq_self_of_mem_nfc inText (bare c hc).2
  rw [← Text.nfd_nfc, composed, nfd_bareLetters_append bare, final]

/-- If a decomposed text is cut before a letter, both parts are decomposed. -/
theorem Text.nfd_parts {a b : Text} (letter : ∀ c ∈ b.head?, isMark c = false)
    (decomposed : (a ++ b).nfd = a ++ b) : a.nfd = a ∧ b.nfd = b := by
  have final : a.flatMap decompose = a := by
    refine flatMap_decompose_eq_self fun c hc => ?_
    exact decompose_eq_self_of_mem_nfd (t := a ++ b)
      (by rw [decomposed]; exact List.mem_append_left b hc)
  have lengths : a.nfd.length = a.length := by rw [a.length_nfd, Text.fullLength, final]
  rw [Text.nfd_append letter] at decomposed
  exact List.append_inj decomposed lengths

/-! ## Digraphs -/

/-- A digraph that can be read in a composed text can be read in the decomposed one. -/
theorem DigraphTable.SharesLetters.opens_nfd {table : DigraphTable} (shares : table.SharesLetters)
    {t : Text} {d : Text × Text} (hd : d ∈ table.readable) (opening : opens d.1 t.nfc = true) :
    opens d.1 t.nfd = true := by
  have bare := isBareLetter_of_opens (shares d (mem_of_mem_readable hd).1) opening
  have whole := nfd_of_nfc_eq_append bare (List.take_append_drop d.1.length t.nfc).symm
  have inside := length_le_of_opens opening
  rw [← List.take_append_drop d.1.length t.nfc] at opening
  rw [whole]
  refine ((opens_iff_append _).1 ((opens_iff_append _).2 ⟨opening, ?_⟩)).1
  rw [List.length_take]
  omega

/-- The digraphs that are read in a decomposed text are those of the composed one, if the first one
    still stands there. -/
theorem DigraphTable.SharesLetters.reach_nfc {table : DigraphTable} (shares : table.SharesLetters)
    {t : Text} (keeps : ∀ n, table.reach t.nfd = some n → t.nfd.take n <+: t.nfc) :
    table.reach t.nfc = table.reach t.nfd := by
  have same : ∀ d ∈ table.readable, opens d.1 t.nfc = opens d.1 t.nfd := by
    intro d hd
    rw [Bool.eq_iff_iff]
    refine ⟨shares.opens_nfd hd, fun opening => ?_⟩
    cases reached : table.reach t.nfd with
    | none =>
      rw [reach_eq_none_iff.1 reached d hd] at opening
      exact absurd opening (by simp)
    | some n =>
      -- No digraph goes beyond the longest one, and this stands in both forms.
      have longest := (reach_eq_some_iff.1 reached).2 d hd opening
      have inside := length_le_of_opens opening
      obtain ⟨u, composed⟩ := keeps n reached
      rw [← List.take_append_drop n t.nfd] at opening
      rw [← composed]
      refine ((opens_iff_append u).1 ((opens_iff_append _).2 ⟨opening, ?_⟩)).1
      rw [List.length_take]
      omega
  rw [reach, reach, List.filter_congr same]

/-! ## The first grapheme -/

/-- Two texts are the composed and the decomposed form of one text. -/
structure Text.AreForms (s t : Text) : Prop where
  composed : s = t.nfc
  decomposed : t = s.nfd

/-- How a grapheme of a composed word is tied to one of the decomposed word. -/
structure Grapheme.Alike (g h : Grapheme) : Prop where
  text : g.text.AreForms h.text
  isDigraph : g.isDigraph = h.isDigraph
  head : h.isDigraph = true → g.head = h.head

/-- Whether the digraph of a grapheme still stands where the grapheme is composed. -/
def Grapheme.KeepsHead (g : Grapheme) : Prop := g.isDigraph = true → g.head <+: g.text.nfc

/-- A decomposed grapheme that keeps its digraph is composed to as many letters, with marks. -/
theorem exists_nfc_text_eq {table : DigraphTable} (shares : table.SharesLetters) {c : Char}
    {t : Text} (decomposed : (firstGrapheme table c t).text.nfd = (firstGrapheme table c t).text)
    (keeps : (firstGrapheme table c t).KeepsHead) :
    ∃ head marks, (firstGrapheme table c t).text.nfc = head ++ marks ∧
      head.length = table.extent (c :: t) + 1 ∧ (∀ m ∈ marks, isMark m = true) ∧
      ((firstGrapheme table c t).isDigraph = true → head = (firstGrapheme table c t).head) := by
  have trailing := isMark_of_mem_trail table c t
  cases reached : table.reach (c :: t) with
  | none =>
    -- One character with marks.
    obtain ⟨noDigraph, text⟩ := firstGrapheme_of_reach_eq_none reached
    rw [text] at decomposed ⊢
    obtain ⟨d, rest, composed, _, marked, _⟩ :=
      exists_composeOnto_eq_cons_marks c [] (firstGrapheme table c t).trail (by simp) trailing
    refine ⟨[d], rest, ?_, by simp [DigraphTable.extent, reached], marked, by simp [noDigraph]⟩
    rw [Text.nfc, decomposed]
    exact composed
  | some n =>
    -- The letters of the digraph, with what the marks are composed to.
    obtain ⟨digraph, head⟩ := firstGrapheme_of_reach reached
    obtain ⟨marks, composed⟩ := keeps digraph
    have bare := shares.isBareLetter_of_reach reached
    rw [← head] at bare
    have whole := nfd_of_nfc_eq_append bare composed.symm
    rw [decomposed, Grapheme.text, List.append_cancel_left_eq] at whole
    exact ⟨_, marks, composed.symm, length_head_firstGrapheme table c t,
      isMark_of_isMark_nfd (whole ▸ trailing), fun _ => rfl⟩

/-! ## Graphemes -/

/-- A text keeps the digraphs that are read in its decomposed form if they still stand where it is
    composed. -/
def Text.KeepsDigraphs (table : DigraphTable) (t : Text) : Prop :=
  ∀ g ∈ graphemes table isMark t.nfd, g.KeepsHead

instance (table : DigraphTable) (t : Text) : Decidable (t.KeepsDigraphs table) :=
  inferInstanceAs (Decidable (∀ g ∈ graphemes table isMark t.nfd,
    g.isDigraph = true → g.head <+: g.text.nfc))

/-- The graphemes of a decomposed text, and those of the composed one. -/
theorem alike_graphemes {table : DigraphTable} (shares : table.SharesLetters) {t : Text}
    (decomposed : t.nfd = t) (single : ∀ c ∈ t.nfc, hangulLetters? c = none)
    (keeps : ∀ g ∈ graphemes table isMark t, g.KeepsHead) :
    List.Forall₂ Grapheme.Alike (graphemes table isMark t.nfc) (graphemes table isMark t) := by
  -- Along the graphemes of the decomposed text: what is left after one is decomposed again.
  induction t using graphemes_induction table with
  | nil => simp
  | cons c t ih =>
    rw [graphemes_cons] at keeps ⊢
    have split := text_firstGrapheme_append table c t
    have unmarked := isMark_head?_afterFirst table c t
    obtain ⟨first, later⟩ := List.forall_mem_cons.1 keeps
    obtain ⟨here, left⟩ := Text.nfd_parts unmarked (split.symm ▸ decomposed)
    have whole : Text.nfc (c :: t) = (firstGrapheme table c t).text.nfc ++
        (afterFirst table c t).nfc := by
      rw [← split]
      exact Text.nfc_append_of_single unmarked (split.symm ▸ single)
    have ih := ih left (fun d hd => single d (by
      rw [whole]
      exact List.mem_append_right _ hd)) later
    obtain ⟨head, marks, composed, length, marked, sameHead⟩ := exists_nfc_text_eq shares here first
    rw [composed, List.append_assoc] at whole
    -- The same digraph is read in both forms.
    have reached : table.reach (Text.nfc (c :: t)) = table.reach (c :: t) := by
      rw [shares.reach_nfc, decomposed]
      rw [decomposed]
      intro n reached
      obtain ⟨digraph, spelling⟩ := firstGrapheme_of_reach reached
      rw [whole, sameHead digraph, ← spelling]
      exact List.prefix_append _ _
    have extent : table.extent (Text.nfc (c :: t)) = table.extent (c :: t) := by
      rw [DigraphTable.extent, reached, DigraphTable.extent]
    rw [graphemes_eq_cons whole (by rw [length, extent]) marked (isMark_head?_nfc unmarked), reached]
    refine .cons ⟨⟨?_, ?_⟩, rfl, sameHead⟩ ih
    · exact composed.symm
    · show (firstGrapheme table c t).text = Text.nfd (head ++ marks)
      rw [← composed, Text.nfd_nfc, here]

/-! ## Phonemes -/

/-- How a phoneme of a composed word is tied to one of the decomposed word. -/
structure Phoneme.Alike (p q : Phoneme) : Prop where
  text : p.text.AreForms q.text
  key : p.key = q.key
  marks : p.marks = q.marks

theorem Grapheme.Alike.key {table : DigraphTable} (filled : ∀ d ∈ table, d.1 ≠ [])
    {g h : Grapheme} (alike : g.Alike h) : g.key table = h.key table := by
  cases digraph : h.isDigraph with
  | true =>
    have same := alike.head digraph
    rw [Grapheme.key, Grapheme.key, if_pos (alike.isDigraph.trans digraph), if_pos digraph,
      Grapheme.phoneme, Grapheme.phoneme, if_pos (alike.isDigraph.trans digraph), if_pos digraph,
      same]
  | false =>
    rw [Grapheme.key_of_letter filled (alike.isDigraph.trans digraph),
      Grapheme.key_of_letter filled digraph, alike.text.decomposed, Text.base, Text.base,
      Text.nfd_nfd]

theorem alike_phonemesFrom {table : DigraphTable} (filled : ∀ d ∈ table, d.1 ≠ [])
    {gs hs : List Grapheme} (alike : List.Forall₂ Grapheme.Alike gs hs) (start start' : Nat) :
    List.Forall₂ Phoneme.Alike (phonemesFrom table start gs) (phonemesFrom table start' hs) := by
  induction alike generalizing start start' with
  | nil => exact .nil
  | @cons g h gs hs here _ ih =>
    refine .cons ⟨here.text, here.key filled, ?_⟩ (ih _ _)
    show g.text.marks = h.text.marks
    rw [here.text.decomposed, Text.marks, Text.marks, Text.nfd_nfd]

/-- The phonemes of the two canonical forms of a word without Hangul syllables correspond, if the
    word keeps its digraphs. -/
theorem alike_phonemes {table : DigraphTable} (filled : ∀ d ∈ table, d.1 ≠ [])
    (shares : table.SharesLetters) {word : Text}
    (single : ∀ c ∈ word.nfc, hangulLetters? c = none) (keeps : word.KeepsDigraphs table) :
    List.Forall₂ Phoneme.Alike (phonemes table word.nfc) (phonemes table word.nfd) := by
  have alike := alike_graphemes shares word.nfd_nfd (by rwa [Text.nfc_nfd]) keeps
  rw [Text.nfc_nfd] at alike
  exact alike_phonemesFrom filled alike 0 0

/-! ## Runs of phonemes -/

/-- No word is cut in front of a mark, its beginning apart. -/
theorem isMark_head?_drop_phonemes (table : DigraphTable) (word : Text) {k : Nat} (later : 0 < k) :
    ∀ c ∈ (((phonemes table word).drop k).flatMap Phoneme.text).head?, isMark c = false := by
  obtain ⟨k, rfl⟩ := Nat.exists_eq_add_of_lt later
  rw [flatMap_text_drop_phonemes, Nat.zero_add]
  exact isMark_head?_drop_graphemes table word k

theorem isMark_head?_of_mem_tail {table : DigraphTable} {word : Text} {p : Phoneme}
    (h : p ∈ (phonemes table word).tail) : ∀ c ∈ p.text.head?, isMark c = false := by
  obtain ⟨k, hk, rfl⟩ := List.getElem_of_mem h
  rw [List.length_tail] at hk
  intro c hc
  apply isMark_head?_drop_phonemes table word (Nat.succ_pos k) c
  rw [List.drop_eq_getElem_cons (by omega), List.flatMap_cons, List.head?_append]
  rw [List.getElem_tail] at hc
  rw [Option.mem_def.1 hc]
  rfl

theorem flatMap_nfd_text {ps qs : List Phoneme} (alike : List.Forall₂ Phoneme.Alike ps qs) :
    ps.flatMap (fun p => p.text.nfd) = qs.flatMap Phoneme.text := by
  induction alike with
  | nil => rfl
  | cons here _ ih => rw [List.flatMap_cons, List.flatMap_cons, ih, here.text.decomposed]

/-- A run of phonemes is decomposed one by one, if each but the first begins with a letter. -/
theorem nfd_flatMap_text {ps qs : List Phoneme} (alike : List.Forall₂ Phoneme.Alike ps qs)
    (lettered : ∀ p ∈ ps.tail, ∀ c ∈ p.text.head?, isMark c = false) :
    Text.nfd (ps.flatMap Phoneme.text) = qs.flatMap Phoneme.text := by
  rw [← flatMap_nfd_text alike]
  cases ps with
  | nil => rfl
  | cons p ps =>
    have later : ∀ p ∈ ps, ∀ c ∈ p.text.head?, isMark c = false := lettered
    rw [List.flatMap_cons, List.flatMap_cons, Text.nfd_append (isMark_head?_flatMap later),
      nfd_flatMap later]

/-- A run of phonemes of a composed word is composed. -/
theorem nfc_run (table : DigraphTable) (word : Text) (a b : Nat) :
    Text.nfc ((((phonemes table word.nfc).drop a).take b).flatMap Phoneme.text) =
      (((phonemes table word.nfc).drop a).take b).flatMap Phoneme.text := by
  have split : (((phonemes table word.nfc).drop a).take b).flatMap Phoneme.text ++
      ((phonemes table word.nfc).drop (a + b)).flatMap Phoneme.text =
        ((phonemes table word.nfc).drop a).flatMap Phoneme.text := by
    rw [← List.flatMap_append, ← List.drop_drop, List.take_append_drop]
  -- What goes on from the first phoneme of the run is composed.
  have onwards : Text.nfc (((phonemes table word.nfc).drop a).flatMap Phoneme.text) =
      ((phonemes table word.nfc).drop a).flatMap Phoneme.text := by
    rcases Nat.eq_zero_or_pos a with rfl | inside
    · rw [List.drop_zero, flatMap_text_phonemes, Text.nfc_nfc]
    · refine (Text.nfc_parts (a := ((phonemes table word.nfc).take a).flatMap Phoneme.text)
        (isMark_head?_drop_phonemes table word.nfc inside) ?_).2
      rw [cut_phonemes, Text.nfc_nfc]
  rcases Nat.eq_zero_or_pos (a + b) with none | inside
  · obtain rfl : b = 0 := by omega
    simp
  · exact (Text.nfc_parts (isMark_head?_drop_phonemes table word.nfc inside)
      (by rw [split, onwards])).1

/-- Runs of phonemes in the same places are spelled by the two forms of one text. -/
theorem areForms_run {table : DigraphTable} {word : Text} {qs : List Phoneme}
    (alike : List.Forall₂ Phoneme.Alike (phonemes table word.nfc) qs) (a b : Nat) :
    Text.AreForms ((((phonemes table word.nfc).drop a).take b).flatMap Phoneme.text)
      (((qs.drop a).take b).flatMap Phoneme.text) := by
  have lettered : ∀ p ∈ (((phonemes table word.nfc).drop a).take b).tail,
      ∀ c ∈ p.text.head?, isMark c = false := by
    intro p hp
    have later := (List.take_sublist b ((phonemes table word.nfc).drop a)).tail.subset hp
    rw [List.tail_drop, ← List.drop_tail] at later
    exact isMark_head?_of_mem_tail (List.mem_of_mem_drop later)
  have whole := nfd_flatMap_text (List.forall₂_take b (List.forall₂_drop a alike)) lettered
  refine ⟨?_, whole.symm⟩
  rw [← whole, Text.nfc_nfd, nfc_run]

end SoundLaw
