/-
  SoundLaw.Proofs.Spelling.Respelling

  Folding again what was folded and spelled out. A word without stand-ins is respelled piece by
  piece, and whether a piece is read again as it was depends on the first letter of the next one
  (`reach_cons_eq_none_iff`, `reach_append_eq_some_iff`). Respelling changes this letter at two
  digraphs: `kh` becomes `ch`, and no digraph goes on with a `c`; `wh` becomes `hw`, and the `h` is
  taken by a letter before it that spells a digraph with `h`, as in `twh`, which becomes `thw`. All
  other words are read again as they were (`fold_respelled_eq_iff`).
-/
import SoundLaw.Proofs.Phoneme.Reading
import SoundLaw.Proofs.Spelling.RoundTrip

namespace SoundLaw

/-! ## Digraphs, case aside -/

theorem DigraphTable.opens_congr {spelling t u : Text}
    (same : t.map lowerLetter = u.map lowerLetter) :
    DigraphTable.opens spelling t = DigraphTable.opens spelling u := by
  induction spelling generalizing t u with
  | nil => rw [DigraphTable.opens, DigraphTable.opens]
  | cons k spelling ih =>
    cases t with
    | nil => rw [List.map_eq_nil_iff.1 same.symm]
    | cons c t =>
      obtain ⟨e, u, rfl⟩ := List.exists_cons_of_ne_nil (l := u) (by rintro rfl; simp at same)
      rw [List.map_cons, List.map_cons, List.cons.injEq] at same
      rw [DigraphTable.opens, DigraphTable.opens, ih same.2, sameLetter, sameLetter, same.1]

theorem DigraphTable.reach_congr {table : DigraphTable} {t u : Text}
    (same : t.map lowerLetter = u.map lowerLetter) : table.reach t = table.reach u := by
  rw [DigraphTable.reach, DigraphTable.reach,
    List.filter_congr fun d _ => DigraphTable.opens_congr same]

/-! ## The letter after a piece -/

theorem DigraphTable.map_lowerLetter_words :
    ∀ d ∈ DigraphTable.words, d.1.map lowerLetter = d.1 := by decide +kernel

/-- Whether a digraph opens a text can be told from the first two letters. -/
theorem reach_cons_eq_none_iff {c : Char} {t : Text} :
    DigraphTable.words.reach (c :: t) = none ↔
      ∀ e ∈ t.head?, DigraphTable.words.reach [c, e] = none := by
  cases t with
  | nil => simp [DigraphTable.reach_singleton DigraphTable.two_le_length_words]
  | cons e t =>
    simp only [List.head?_cons, Option.mem_def, Option.some.injEq, forall_eq']
    rw [DigraphTable.reach_eq_none_iff, DigraphTable.reach_eq_none_iff]
    constructor
    · intro unread d hd
      rw [← Bool.not_eq_true]
      intro opening
      exact absurd (DigraphTable.opens_append (u := t) opening) (by simp [unread d hd])
    · intro unread d hd
      rw [← Bool.not_eq_true]
      intro opening
      -- The first two letters of a longer digraph are a digraph.
      have several := DigraphTable.two_le_length_words d (DigraphTable.mem_of_mem_readable hd).1
      obtain ⟨b, hb, beginning⟩ : ∃ b ∈ DigraphTable.words.readable, b.1 = d.1.take 2 := by
        rcases Nat.eq_or_lt_of_le several with two | longer
        · exact ⟨d, hd, by rw [two, List.take_length]⟩
        · exact DigraphTable.hasBeginnings_words d hd 2 longer (Nat.le_refl 2)
      have opens := beginning ▸ DigraphTable.opens_take 2 opening
      have opensPair := (DigraphTable.opens_iff_append (s := [c, e]) t).2
        ⟨opens, by rw [beginning, List.length_take, Nat.min_eq_left several]; rfl⟩
      exact absurd opensPair (by simp [unread b hb])

/-- No digraph goes on with a `c`. -/
theorem reach_before_c (c : Char) : DigraphTable.words.reach [c, 'c'] = none := by
  rw [DigraphTable.reach_eq_none_iff]
  intro d hd
  have member := (DigraphTable.mem_of_mem_readable hd).1
  have later : ∀ d ∈ DigraphTable.words, (d.1.tail.all fun k => !sameLetter 'c' k) = true := by
    decide +kernel
  have several := DigraphTable.two_le_length_words d member
  have other := List.all_eq_true.1 (later d member)
  rcases spelled : d.1 with _ | ⟨k, _ | ⟨l, ks⟩⟩
  · simp [spelled] at several
  · simp [spelled] at several
  · have apart : sameLetter 'c' l = false := by simpa using other l (by simp [spelled])
    rw [DigraphTable.opens, DigraphTable.opens, apart, Bool.false_and, Bool.and_false]

/-- A digraph is read by itself unless it is `kʰ` and a `w` follows. -/
theorem reach_append_eq_some_iff {d : Text × Text} (hd : d ∈ DigraphTable.words) {u : Text} :
    DigraphTable.words.reach (d.1 ++ u) = some d.1.length ↔
      ∀ e ∈ u.head?, d.1 = ['k', 'ʰ'] → sameLetter e 'w' = false := by
  have listed : ∀ d ∈ DigraphTable.words, d ∈ DigraphTable.words.readable := by
    simp [DigraphTable.readable_words]
  constructor
  · rintro reached e he spelled
    obtain ⟨u, rfl⟩ := List.head?_eq_some_iff.1 he
    rw [← Bool.not_eq_true]
    intro same
    rw [spelled] at reached
    have opening : DigraphTable.opens ['k', 'ʰ', 'w'] (['k', 'ʰ'] ++ e :: u) = true := by
      simp [DigraphTable.opens, sameLetter_self, same]
    have longest := (DigraphTable.reach_eq_some_iff.1 reached).2
      (['k', 'ʰ', 'w'], ['ꝃ']) (listed _ (by decide)) opening
    exact absurd longest (by simp)
  · intro apart
    rw [DigraphTable.reach_eq_some_iff]
    refine ⟨⟨d, listed d hd, DigraphTable.opens_append (DigraphTable.opens_self d.1), rfl⟩, ?_⟩
    intro longer hl opening
    by_contra more
    rw [Nat.not_le] at more
    have beginning := (DigraphTable.opens_iff_append u).2
      ⟨DigraphTable.opens_take d.1.length opening, List.length_take_le _ _⟩
    -- No other digraph is the beginning of a longer one.
    have only : ∀ d ∈ DigraphTable.words, ∀ longer ∈ DigraphTable.words,
        d.1.length < longer.1.length →
          DigraphTable.opens (longer.1.take d.1.length) d.1 = true →
            d.1 = ['k', 'ʰ'] ∧ longer.1 = ['k', 'ʰ', 'w'] := by decide +kernel
    obtain ⟨spelled, spelledLonger⟩ :=
      only d hd longer (DigraphTable.mem_of_mem_readable hl).1 more beginning
    rw [spelled, spelledLonger] at opening
    cases u with
    | nil => simp [DigraphTable.opens] at opening
    | cons e u =>
      have other := apart e rfl spelled
      simp [DigraphTable.opens, other] at opening

/-! ## The first letter of a respelled word -/

/-- A text spelled canonically: folded, and spelled out again. -/
def Text.respelled (t : Text) : Text := (t.fold DigraphTable.words).spelledOut

/-- The digraph `wh`, which is respelled `hw`, in whatever case it is written. -/
def Grapheme.IsWh (g : Grapheme) : Prop :=
  g.isDigraph = true ∧ g.head.map lowerLetter = ['w', 'h']

instance (g : Grapheme) : Decidable g.IsWh := inferInstanceAs (Decidable (_ ∧ _))

theorem respelled_cons {c : Char} {t : Text} (unread : DigraphTable.words.reach (c :: t) = none)
    (plain : isStandIn c = false) : Text.respelled (c :: t) = c :: t.respelled := by
  rw [Text.respelled, fold_words_cons unread, Text.spelledOut, List.flatMap_cons,
    spellOut_of_plain plain]
  rfl

theorem respelled_append {spelling rest : Text} {s : Char}
    (reached : DigraphTable.words.reach (spelling ++ rest) = some spelling.length)
    (standIn : DigraphTable.words.standIn? spelling = some [s]) :
    Text.respelled (spelling ++ rest) = spellOut s ++ rest.respelled := by
  rw [Text.respelled, fold_words_append reached standIn, Text.spelledOut, List.flatMap_append,
    List.flatMap_singleton]
  rfl

/-- The first letter is the same, case aside, unless the text begins with the digraph `wh` or with
    `kh`. -/
theorem respelled_cases {t : Text} {gs : List Grapheme} (scans : Scans t gs)
    (plain : ∀ c ∈ t, isStandIn c = false) :
    t.respelled = [] ∧ gs = [] ∨
      ∃ e u a next, t.respelled = e :: u ∧ t.head? = some a ∧ gs.head? = some next ∧
        (next.IsWh ∧ e = 'h' ∨ ¬next.IsWh ∧ (e = 'c' ∨ lowerLetter e = lowerLetter a)) := by
  cases scans with
  | nil => exact Or.inl ⟨by simp [Text.respelled, Text.spelledOut], rfl⟩
  | @letter c t gs unread later =>
    right
    have other : ¬(Grapheme.single c).IsWh := by simp [Grapheme.IsWh, Grapheme.single]
    exact ⟨c, t.respelled, c, .single c, respelled_cons unread (plain c List.mem_cons_self), rfl,
      rfl, Or.inr ⟨other, Or.inr rfl⟩⟩
  | @digraph d spelling rest gs hd small standIn reached later =>
    right
    obtain ⟨s, single, isStandIn, _⟩ := isStandIn_of_mem_words hd
    rw [single] at standIn
    -- Only `wh` and `kh` are spelled out with another first letter.
    have first : ∀ d ∈ DigraphTable.words,
        d.1 = ['w', 'h'] ∧ (Text.spelledOut d.2).head? = some 'h' ∨ d.1 ≠ ['w', 'h'] ∧
          ((Text.spelledOut d.2).head? = some 'c' ∨
            (Text.spelledOut d.2).head? = d.1.head?) := by decide
    have here := first d hd
    have lower := DigraphTable.map_lowerLetter_words d hd
    obtain ⟨k, ks, letters⟩ := List.exists_cons_of_ne_nil (DigraphTable.ne_nil_words d hd)
    obtain ⟨a, as, rfl, rfl, _⟩ := List.map_eq_cons_iff.1 (small.trans letters)
    obtain ⟨e, es, spelled⟩ := List.exists_cons_of_ne_nil (spellOut_ne_nil s)
    rw [single, Text.spelledOut_singleton, spelled, List.head?_cons, Option.some.injEq,
      Option.some.injEq, letters, List.head?_cons, Option.some.injEq, ← letters, ← small] at here
    rw [letters, List.map_cons, List.cons.injEq] at lower
    refine ⟨e, es ++ rest.respelled, a, .digraph (a :: as), ?_, rfl, rfl, ?_⟩
    · rw [respelled_append reached standIn, spelled, List.cons_append]
    · rcases here with ⟨wh, rfl⟩ | ⟨other, rfl | rfl⟩
      · exact Or.inl ⟨⟨rfl, wh⟩, rfl⟩
      · exact Or.inr ⟨fun wh => other wh.2, Or.inl rfl⟩
      · exact Or.inr ⟨fun wh => other wh.2, Or.inr lower.1⟩

/-! ## Reading a respelled word -/

/-- A character that is read by itself and spells a digraph with an `h`, before the digraph `wh`. -/
def Grapheme.TakesH (g next : Grapheme) : Prop :=
  g.isDigraph = false ∧ (DigraphTable.words.reach (g.head ++ ['h'])).isSome = true ∧ next.IsWh

instance (g next : Grapheme) : Decidable (g.TakesH next) := inferInstanceAs (Decidable (_ ∧ _))

/-- A character by itself is read by itself again, unless it takes the `h` of a respelled `wh`. -/
theorem reach_cons_respelled {c : Char} {t : Text} {gs : List Grapheme} (scans : Scans t gs)
    (plain : ∀ c ∈ t, isStandIn c = false) (unread : DigraphTable.words.reach (c :: t) = none) :
    DigraphTable.words.reach (c :: t.respelled) = none ↔
      ∀ next ∈ gs.head?, ¬(Grapheme.single c).TakesH next := by
  rcases respelled_cases scans plain with
    ⟨empty, rfl⟩ | ⟨e, u, a, next, respelled, first, piece, which⟩
  · simp [empty, DigraphTable.reach_singleton DigraphTable.two_le_length_words]
  · rw [reach_cons_eq_none_iff] at unread ⊢
    have unread := unread a first
    simp only [respelled, List.head?_cons, piece, Option.mem_def, Option.some.injEq, forall_eq']
    rw [Grapheme.TakesH]
    -- What follows begins with the `h` of a `wh`, with the `c` of a `kh`, or as it did before.
    rcases which with ⟨wh, rfl⟩ | ⟨other, rfl | same⟩
    · simp [wh, Grapheme.single]
    · simp [reach_before_c, other]
    · have same : [c, e].map lowerLetter = [c, a].map lowerLetter := by simp [same]
      simp [DigraphTable.reach_congr same, unread, other]

/-- A digraph is read again as it is spelled canonically. -/
theorem reach_append_respelled {d : Text × Text} {s : Char} {spelling rest : Text}
    {gs : List Grapheme} (scans : Scans rest gs) (plain : ∀ c ∈ rest, isStandIn c = false)
    (hd : d ∈ DigraphTable.words) (single : d.2 = [s]) (standIn : isStandIn s = true)
    (small : spelling.map lowerLetter = d.1)
    (reached : DigraphTable.words.reach (spelling ++ rest) = some spelling.length) :
    DigraphTable.words.reach (spellOut s ++ rest.respelled) = some (spellOut s).length := by
  have aspirated : ∀ d ∈ DigraphTable.words,
      Text.spelledOut d.2 = ['k', 'ʰ'] → d.1 = ['k', 'ʰ'] := by decide
  have aspirated := aspirated d hd
  rw [single, Text.spelledOut_singleton] at aspirated
  obtain ⟨canonical, hc, _, spelled⟩ := exists_spelling_of_isStandIn standIn
  have same : (spelling ++ rest).map lowerLetter = (d.1 ++ rest).map lowerLetter := by
    rw [List.map_append, List.map_append, small, DigraphTable.map_lowerLetter_words d hd]
  have length : spelling.length = d.1.length := by rw [← small, List.length_map]
  rw [DigraphTable.reach_congr same, length, reach_append_eq_some_iff hd] at reached
  rw [spelled, reach_append_eq_some_iff hc]
  intro x hx long
  rcases respelled_cases scans plain with ⟨empty, _⟩ | ⟨e, u, a, next, respelled, first, _, which⟩
  · simp [empty] at hx
  · rw [respelled, List.head?_cons, Option.mem_some_iff] at hx
    rw [← hx]
    rcases which with ⟨_, rfl⟩ | ⟨_, rfl | same⟩
    · decide +kernel
    · decide +kernel
    · -- The `w` was there before, and the longer digraph would have been read.
      have apart := reached a first (aspirated (spelled.trans long))
      rwa [sameLetter, ← same] at apart

/-! ## Folding a respelled word -/

theorem longS_notMem_spelledOut (t : Text) : 'ſ' ∉ t.spelledOut := by
  intro long
  obtain ⟨c, _, hc⟩ := List.mem_flatMap.1 long
  rcases spellOut_cases c with ⟨plain, same⟩ | ⟨_, d, hd, _, same⟩
  · rw [same, List.mem_singleton] at hc
    rw [← hc] at plain
    exact absurd plain (by decide)
  · have short : ∀ d ∈ DigraphTable.words, 'ſ' ∉ d.1 := by decide
    exact short d hd (same ▸ hc)

/-- Where a digraph opens a text, the folded text begins with a stand-in. -/
theorem exists_standIn_of_reach {t : Text} {n : Nat} (short : 'ſ' ∉ t)
    (reached : DigraphTable.words.reach t = some n) :
    ∃ s u, t.fold DigraphTable.words = s :: u ∧ isStandIn s = true := by
  obtain ⟨d, hd, spelling, rest, rfl, rfl, _, standIn⟩ := exists_digraph_of_reach short reached
  obtain ⟨s, single, isStandIn, _⟩ := isStandIn_of_mem_words hd
  exact ⟨s, rest.fold DigraphTable.words,
    fold_words_append reached (standIn.trans (congrArg some single)), isStandIn⟩

/-- Along the scan of a text, every piece is read again but a character that takes an `h`. -/
theorem fold_respelled_eq_iff {t : Text} {gs : List Grapheme} (scans : Scans t gs)
    (plain : ∀ c ∈ t, isStandIn c = false) :
    t.respelled.fold DigraphTable.words = t.fold DigraphTable.words ↔
      gs.IsChain fun g next => ¬g.TakesH next := by
  induction scans with
  | nil => simp [Text.respelled, Text.spelledOut]
  | @letter c t gs unread later ih =>
    obtain ⟨here, others⟩ := List.forall_mem_cons.1 plain
    rw [respelled_cons unread here, fold_words_cons unread, List.isChain_cons, ← ih others,
      ← reach_cons_respelled later others unread]
    cases again : DigraphTable.words.reach (c :: t.respelled) with
    | none => rw [fold_words_cons again, List.cons_inj_right, eq_self, true_and]
    | some n =>
      -- The first character is a stand-in now, and was none.
      obtain ⟨s, u, folded, standIn⟩ := exists_standIn_of_reach
        (respelled_cons unread here ▸ longS_notMem_spelledOut _) again
      have changed : s ≠ c := by
        rintro rfl
        exact absurd (here.symm.trans standIn) (by simp)
      simp [folded, changed]
  | @digraph d spelling rest gs hd small standIn reached later ih =>
    obtain ⟨s, single, isStandIn, _⟩ := isStandIn_of_mem_words hd
    have others : ∀ c ∈ rest, SoundLaw.isStandIn c = false :=
      fun c hc => plain c (List.mem_append_right spelling hc)
    have again := reach_append_respelled later others hd single isStandIn small reached
    rw [single] at standIn
    rw [respelled_append reached standIn, fold_words_append again (standIn?_spellOut isStandIn),
      fold_words_append reached standIn, List.isChain_cons, ← ih others]
    simp [Grapheme.TakesH, Grapheme.digraph]

/-- No `wh` of a text is read after a character that takes its `h` when it is respelled. -/
def Text.KeepsWhApart (t : Text) : Prop := t.scan.IsChain fun g next => ¬g.TakesH next

instance (t : Text) : Decidable t.KeepsWhApart := inferInstanceAs (Decidable (List.IsChain _ _))

/-- A word without stand-ins can be folded, spelled out and folded again, and is then the same
    exactly if all digraphs `wh` are read apart from the character before them. -/
theorem fold?_respelled_eq_iff {word : Text} (plain : ∀ c ∈ word, isStandIn c = false) :
    ∃ folded again, word.fold? DigraphTable.words = .ok folded ∧
      folded.spelledOut.fold? DigraphTable.words = .ok again ∧
      (again = folded ↔ word.KeepsWhApart) := by
  have short : 'ſ' ∉ word := fun long => absurd (plain 'ſ' long) (by decide)
  exact ⟨_, _, Text.fold?_eq_ok (lists_words short),
    Text.fold?_eq_ok (lists_words (longS_notMem_spelledOut _)),
    fold_respelled_eq_iff (scans_scan short) plain⟩

-- `kh` is respelled before a vowel, and `wh` after a letter that spells no digraph with `h`.
theorem fold?_respelled_eq_of_alternate_spellings :
    let word : Text := ['k', 'h', 'a', 's', 'w', 'h', 'i', 'n']
    (∀ c ∈ word, isStandIn c = false) ∧ word.KeepsWhApart ∧
      word.respelled = ['c', 'h', 'a', 's', 'h', 'w', 'i', 'n'] ∧
      ∃ folded, word.fold? DigraphTable.words = .ok folded ∧
        folded.spelledOut.fold? DigraphTable.words = .ok folded := by
  intro word
  have plain : ∀ c ∈ word, isStandIn c = false := by
    have each : (word.all fun c => !isStandIn c) = true := by decide
    simpa using each
  have apart : word.KeepsWhApart := by decide +kernel
  obtain ⟨folded, again, first, second, same⟩ := fold?_respelled_eq_iff plain
  exact ⟨plain, apart, by decide +kernel, folded, first, same.2 apart ▸ second⟩

/-- The `h` of a respelled `wh` is taken by a `t` before it. -/
theorem fold?_respelled_strands_w :
    let word : Text := ['t', 'w', 'h']
    (∀ c ∈ word, isStandIn c = false) ∧ word.lower = word ∧
      word.fold? DigraphTable.words = .ok ['t', 'ʍ'] ∧
      Text.spelledOut ['t', 'ʍ'] = ['t', 'h', 'w'] ∧
      Text.fold? DigraphTable.words ['t', 'h', 'w'] = .ok ['θ', 'w'] := by
  intro word
  have folds {t u : Text} (short : 'ſ' ∉ t) (folded : t.fold DigraphTable.words = u) :
      t.fold? DigraphTable.words = .ok u := folded ▸ Text.fold?_eq_ok (lists_words short)
  have plain : ∀ c ∈ word, isStandIn c = false := by
    have each : (word.all fun c => !isStandIn c) = true := by decide
    simpa using each
  exact ⟨plain, by decide +kernel, folds (by decide) (by decide +kernel), by decide,
    folds (by decide) (by decide +kernel)⟩

end SoundLaw
