/-
  SoundLaw.Proofs.Spelling.RoundTrip

  Spelling out what was folded. A word is scanned into digraphs and single characters (`Scans`) and
  folded piece by piece, and each piece is spelled out again by itself: a character as it is, and a
  digraph by the canonical spelling of its stand-in. The two spellings of a digraph have the same
  length, so that the word comes back exactly if every digraph that is read in it has its canonical
  spelling (`spelledOut_fold_eq_iff`).
-/
import SoundLaw.Proofs.Phoneme.Folding
import SoundLaw.Proofs.Text.LongS

namespace SoundLaw

/-! ## Canonical spellings -/

/-- The spelling that some stand-in is spelled out with. -/
def IsCanonicalSpelling (spelling : Text) : Prop :=
  ∃ s, isStandIn s = true ∧ spellOut s = spelling

theorem isStandIn_of_mem_words {d : Text × Text} (hd : d ∈ DigraphTable.words) :
    ∃ s, d.2 = [s] ∧ isStandIn s = true ∧ (spellOut s).length = d.1.length := by
  have each : ∀ d ∈ DigraphTable.words, d.2.length = 1 ∧ d.2.all (fun s =>
      isStandIn s && (spellOut s).length == d.1.length) = true := by decide
  obtain ⟨single, checked⟩ := each d hd
  obtain ⟨s, standIn⟩ := List.length_eq_one_iff.1 single
  rw [standIn, List.all_cons, List.all_nil, Bool.and_true, Bool.and_eq_true, beq_iff_eq] at checked
  exact ⟨s, standIn, checked⟩

/-- All spellings of digraphs are canonical but `kh` and `wh`, which are spelled out as `ch` and
    `hw`. -/
theorem isCanonicalSpelling_iff {spelling : Text} :
    IsCanonicalSpelling spelling ↔ spelling ∈ DigraphTable.words.map (·.1) ∧
      spelling ≠ ['k', 'h'] ∧ spelling ≠ ['w', 'h'] := by
  constructor
  · rintro ⟨s, standIn, rfl⟩
    obtain ⟨d, hd, single, spelled⟩ := exists_spelling_of_isStandIn standIn
    have each : ∀ d ∈ DigraphTable.words,
        Text.spelledOut d.2 ≠ ['k', 'h'] ∧ Text.spelledOut d.2 ≠ ['w', 'h'] := by decide
    have other := each d hd
    rw [single, Text.spelledOut_singleton] at other
    exact ⟨spelled ▸ List.mem_map_of_mem hd, other⟩
  · rintro ⟨listed, notKh, notWh⟩
    obtain ⟨d, hd, rfl⟩ := List.mem_map.1 listed
    have each : ∀ d ∈ DigraphTable.words, d.1 ≠ ['k', 'h'] → d.1 ≠ ['w', 'h'] →
        Text.spelledOut d.2 = d.1 := by decide
    obtain ⟨s, single, standIn, _⟩ := isStandIn_of_mem_words hd
    have spelled := each d hd notKh notWh
    rw [single, Text.spelledOut_singleton] at spelled
    exact ⟨s, standIn, spelled⟩

instance (spelling : Text) : Decidable (IsCanonicalSpelling spelling) :=
  decidable_of_iff _ isCanonicalSpelling_iff.symm

/-! ## Digraphs as they are written -/

/-- What is read as a digraph is, case aside, a spelling of the table, which lists its stand-in. -/
theorem exists_digraph_of_reach {t : Text} {n : Nat} (short : 'ſ' ∉ t)
    (reached : DigraphTable.words.reach t = some n) :
    ∃ d ∈ DigraphTable.words, ∃ spelling rest, spelling ++ rest = t ∧ spelling.length = n ∧
      spelling.map lowerLetter = d.1 ∧ DigraphTable.words.standIn? spelling = some d.2 := by
  obtain ⟨⟨d, readable, opening, rfl⟩, _⟩ := DigraphTable.reach_eq_some_iff.1 reached
  have hd := (DigraphTable.mem_of_mem_readable readable).1
  obtain ⟨small, sigma, dotted⟩ :=
    DigraphTable.map_lowerLetter_take_of_opens (lists_words short d hd) opening
  have listed : ∀ d ∈ DigraphTable.words, DigraphTable.words.lookup d.1 = some d.2 := by decide
  have length : (t.take d.1.length).length = d.1.length := by
    conv_rhs => rw [← small, List.length_map]
  refine ⟨d, hd, _, _, List.take_append_drop d.1.length t, length, small, ?_⟩
  rw [DigraphTable.standIn?, Text.lower, lowerFrom_eq_map _ _ sigma dotted, small, listed d hd]

/-! ## The scan -/

/-- The pieces that folding cuts a text into, from left to right: the longest digraph wherever one
    opens what is left, and single characters. -/
def Text.scan (t : Text) : List Grapheme := graphemes DigraphTable.words (fun _ => false) t

/-- A digraph as it is written in a text. -/
def Grapheme.digraph (spelling : Text) : Grapheme where
  head := spelling
  isDigraph := true
  trail := []

theorem scan_cons {c : Char} {t : Text} (unread : DigraphTable.words.reach (c :: t) = none) :
    Text.scan (c :: t) = .single c :: t.scan := by
  rw [Text.scan, graphemes_without_trails_cons, DigraphTable.extent, unread, Option.getD_none,
    Nat.sub_self, List.drop_zero]
  simp [firstGrapheme, Grapheme.single, DigraphTable.extent, unread, Text.scan]

theorem scan_append {spelling rest : Text}
    (reached : DigraphTable.words.reach (spelling ++ rest) = some spelling.length) :
    Text.scan (spelling ++ rest) = .digraph spelling :: rest.scan := by
  cases spelling with
  | nil =>
    obtain ⟨⟨d, readable, _, empty⟩, _⟩ := DigraphTable.reach_eq_some_iff.1 reached
    exact absurd (List.length_eq_zero_iff.1 empty) (DigraphTable.mem_of_mem_readable readable).2
  | cons c u =>
    rw [List.cons_append] at reached ⊢
    have extent : DigraphTable.words.extent (c :: (u ++ rest)) = u.length := by
      simp [DigraphTable.extent, reached]
    rw [Text.scan, graphemes_without_trails_cons, extent, List.drop_left]
    simp [firstGrapheme, Grapheme.digraph, extent, reached, Text.scan]

/-- How a text is cut: what is read as a digraph is, case aside, one of the table, which lists its
    stand-in, and everything else is read character by character. -/
inductive Scans : Text → List Grapheme → Prop
  | nil : Scans [] []
  | letter {c : Char} {t : Text} {gs : List Grapheme}
      (unread : DigraphTable.words.reach (c :: t) = none) (later : Scans t gs) :
      Scans (c :: t) (.single c :: gs)
  | digraph {d : Text × Text} {spelling rest : Text} {gs : List Grapheme}
      (hd : d ∈ DigraphTable.words) (small : spelling.map lowerLetter = d.1)
      (standIn : DigraphTable.words.standIn? spelling = some d.2)
      (reached : DigraphTable.words.reach (spelling ++ rest) = some spelling.length)
      (later : Scans rest gs) : Scans (spelling ++ rest) (.digraph spelling :: gs)

theorem scans_scan {t : Text} (short : 'ſ' ∉ t) : Scans t t.scan := by
  induction length : t.length using Nat.strong_induction_on generalizing t with
  | _ n ih =>
    cases t with
    | nil =>
      rw [Text.scan, graphemes_nil]
      exact .nil
    | cons c t =>
      cases reached : DigraphTable.words.reach (c :: t) with
      | none =>
        rw [scan_cons reached]
        exact .letter reached (ih _ (by rw [← length, List.length_cons]; omega)
          (fun long => short (List.mem_cons_of_mem c long)) rfl)
      | some k =>
        obtain ⟨d, hd, spelling, rest, split, rfl, small, standIn⟩ :=
          exists_digraph_of_reach short reached
        have some := List.length_pos_iff.2 (DigraphTable.ne_nil_words d hd)
        rw [← small, List.length_map] at some
        rw [← split] at reached short length ⊢
        rw [List.length_append] at length
        have later := ih rest.length (by omega)
          (fun long => short (List.mem_append_right spelling long)) rfl
        rw [scan_append reached]
        exact .digraph hd small standIn reached later

/-! ## Folding -/

theorem fold_words_eq (t : Text) :
    t.fold DigraphTable.words = t.scan.flatMap (Grapheme.phoneme DigraphTable.words) :=
  fold_eq_flatMap_phoneme DigraphTable.ne_nil_words t

@[simp] theorem fold_words_nil : Text.fold DigraphTable.words [] = [] :=
  fold_nil DigraphTable.ne_nil_words

theorem fold_words_cons {c : Char} {t : Text}
    (unread : DigraphTable.words.reach (c :: t) = none) :
    Text.fold DigraphTable.words (c :: t) = c :: t.fold DigraphTable.words := by
  rw [fold_words_eq, scan_cons unread, List.flatMap_cons, fold_words_eq]
  rfl

theorem fold_words_append {spelling rest key : Text}
    (reached : DigraphTable.words.reach (spelling ++ rest) = some spelling.length)
    (standIn : DigraphTable.words.standIn? spelling = some key) :
    Text.fold DigraphTable.words (spelling ++ rest) = key ++ rest.fold DigraphTable.words := by
  rw [fold_words_eq, scan_append reached, List.flatMap_cons, fold_words_eq]
  simp [Grapheme.phoneme, Grapheme.digraph, standIn]

/-! ## Spelling out what was folded -/

/-- The canonical spelling of a stand-in is listed for it. -/
theorem standIn?_spellOut {s : Char} (h : isStandIn s = true) :
    DigraphTable.words.standIn? (spellOut s) = some [s] := by
  have each : ∀ d ∈ DigraphTable.words,
      DigraphTable.words.standIn? (Text.spelledOut d.2) = some d.2 := by decide +kernel
  obtain ⟨d, hd, single, _⟩ := exists_spelling_of_isStandIn h
  have found := each d hd
  rwa [single, Text.spelledOut_singleton] at found

/-- A digraph is spelled canonically exactly if its stand-in is spelled out as it is written. -/
theorem isCanonicalSpelling_iff_of_standIn? {spelling : Text} {s : Char}
    (isStandIn : isStandIn s = true) (standIn : DigraphTable.words.standIn? spelling = some [s]) :
    IsCanonicalSpelling spelling ↔ spellOut s = spelling := by
  constructor
  · rintro ⟨r, other, rfl⟩
    rw [standIn?_spellOut other, Option.some_inj, List.singleton_inj] at standIn
    rw [standIn]
  · exact fun spelled => ⟨s, isStandIn, spelled⟩

/-- Along the scan of a text, spelling out gives back every piece that is spelled canonically. -/
theorem spelledOut_fold_eq_iff {t : Text} {gs : List Grapheme} (scans : Scans t gs)
    (plain : ∀ c ∈ t, isStandIn c = false) :
    (t.fold DigraphTable.words).spelledOut = t ↔
      ∀ g ∈ gs, g.isDigraph = true → IsCanonicalSpelling g.head := by
  induction scans with
  | nil => simp [Text.spelledOut]
  | @letter c t gs unread later ih =>
    obtain ⟨here, others⟩ := List.forall_mem_cons.1 plain
    rw [fold_words_cons unread, Text.spelledOut, List.flatMap_cons, spellOut_of_plain here,
      List.singleton_append, List.cons_inj_right, ← Text.spelledOut, ih others,
      List.forall_mem_cons]
    simp [Grapheme.single]
  | @digraph d spelling rest gs hd small standIn reached later ih =>
    obtain ⟨s, single, isStandIn, length⟩ := isStandIn_of_mem_words hd
    rw [single] at standIn
    have lengths : (spellOut s).length = spelling.length := by
      rw [length, ← small, List.length_map]
    -- A digraph is spelled out in as many letters as it is written with, so that the texts are
    -- compared piece by piece.
    have whole : (spellOut s ++ (rest.fold DigraphTable.words).spelledOut = spelling ++ rest) ↔
        spellOut s = spelling ∧ (rest.fold DigraphTable.words).spelledOut = rest :=
      ⟨fun same => List.append_inj same lengths, fun same => by rw [same.1, same.2]⟩
    rw [fold_words_append reached standIn, Text.spelledOut, List.flatMap_append,
      List.flatMap_singleton, ← Text.spelledOut, whole,
      ih fun c hc => plain c (List.mem_append_right spelling hc), List.forall_mem_cons,
      ← isCanonicalSpelling_iff_of_standIn? isStandIn standIn]
    simp [Grapheme.digraph]

/-- A word without stand-ins can be folded, and spelling it out gives it back exactly if all
    digraphs that are read in it have their canonical spelling. -/
theorem fold?_spelledOut_iff {word : Text} (plain : ∀ c ∈ word, isStandIn c = false) :
    (word.fold? DigraphTable.words).map Text.spelledOut = .ok word ↔
      ∀ g ∈ word.scan, g.isDigraph = true → IsCanonicalSpelling g.head := by
  have short : 'ſ' ∉ word := fun long => absurd (plain 'ſ' long) (by decide)
  rw [Text.fold?_eq_ok (lists_words short), Except.map, Except.ok.injEq,
    spelledOut_fold_eq_iff (scans_scan short) plain]

-- Digraphs that overlap: `kʰw` against `kʰ` and `kw`, `ng` before `gw`, and three letters `s`.
theorem fold?_spelledOut_of_overlaps :
    let word : Text := ['k', 'ʰ', 'w', 'a', 'k', 'ʰ', 'a', 'k', 'w', 'n', 'g', 'w', 's', 's', 's']
    (∀ c ∈ word, isStandIn c = false) ∧
      word.fold? DigraphTable.words = .ok ['ꝃ', 'a', 'ꝁ', 'a', 'ƙ', 'ŋ', 'w', 'ſ', 's'] ∧
      (word.fold? DigraphTable.words).map Text.spelledOut = .ok word := by
  intro word
  have plain : ∀ c ∈ word, isStandIn c = false := by
    have each : (word.all fun c => !isStandIn c) = true := by decide
    simpa using each
  have canonical : ∀ g ∈ word.scan, g.isDigraph = true → IsCanonicalSpelling g.head := by
    decide +kernel
  have folded : word.fold? DigraphTable.words =
      .ok ['ꝃ', 'a', 'ꝁ', 'a', 'ƙ', 'ŋ', 'w', 'ſ', 's'] := by
    rw [Text.fold?_eq_ok (lists_words (by decide))]
    exact congrArg Except.ok (by decide +kernel)
  exact ⟨plain, folded, (fold?_spelledOut_iff plain).2 canonical⟩

end SoundLaw
