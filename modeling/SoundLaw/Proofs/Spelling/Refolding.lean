/-
  SoundLaw.Proofs.Spelling.Refolding

  Folding what is folded. Of the stand-ins, only `ŋ` and `ſ` are letters of digraphs themselves, and
  `ſ` is read as an `s` (`standIn_meets`). So a folded word is read character by character but in
  two places: `ng` before a `w` gives `ŋw`, which is the spelling of another stand-in, and `ss`
  before another `s` gives a digraph with a long `ſ`. Where the scan reads none of the latter, the
  folded word can be folded, and it stays as it is exactly if the scan reads none of the former
  (`fold?_folded_eq_iff`).
-/
import SoundLaw.Proofs.Spelling.LongGeminate
import SoundLaw.Proofs.Spelling.Respelling

namespace SoundLaw

/-! ## Stand-ins as letters -/

/-- A stand-in begins a digraph only as the `ŋ` of `ŋw` or, for an `s`, as the `ſ`; it ends one only
    as the `ſ`. -/
theorem standIn_meets : ∀ d ∈ DigraphTable.words, ∀ s ∈ d.2, ∀ e ∈ DigraphTable.words,
    (∀ k ∈ e.1.head?, sameLetter s k = true →
      s = 'ŋ' ∧ e.1 = ['ŋ', 'w'] ∨ s = 'ſ' ∧ e.1 = ['s', 's']) ∧
    ∀ k ∈ e.1.tail, sameLetter s k = true → s = 'ſ' ∧ e.1 = ['s', 's'] := by
  intro d hd s hs e he
  have others : ∀ d ∈ DigraphTable.words, d.2 = ['ŋ'] ∨ d.2 = ['ſ'] ∨ (d.2.all fun s =>
      DigraphTable.words.all fun e => e.1.all fun k => !sameLetter s k) = true := by decide +kernel
  have velar : ∀ e ∈ DigraphTable.words,
      (e.1 = ['ŋ', 'w'] ∨ (e.1.head?.all fun k => !sameLetter 'ŋ' k) = true) ∧
        (e.1.tail.all fun k => !sameLetter 'ŋ' k) = true := by decide +kernel
  -- All other stand-ins are letters of no digraph.
  rcases others d hd with isVelar | long | foreign
  · obtain rfl : s = 'ŋ' := by simpa [isVelar] using hs
    obtain ⟨first, later⟩ := velar e he
    constructor
    · intro k hk same
      rcases first with spelled | apart
      · exact Or.inl ⟨rfl, spelled⟩
      · exact absurd same (by simpa [Option.mem_def.1 hk] using apart)
    · intro k hk same
      exact absurd same (by simpa using List.all_eq_true.1 later k hk)
  · obtain rfl : s = 'ſ' := by simpa [long] using hs
    constructor
    · intro k hk same
      exact Or.inr ⟨rfl, eq_geminate_of_longS e he k (List.mem_of_mem_head? hk) same⟩
    · intro k hk same
      exact ⟨rfl, eq_geminate_of_longS e he k (List.mem_of_mem_tail hk) same⟩
  · have apart := List.all_eq_true.1 (List.all_eq_true.1 (List.all_eq_true.1 foreign s hs) e he)
    constructor
    · intro k hk same
      exact absurd same (by simpa using apart k (List.mem_of_mem_head? hk))
    · intro k hk same
      exact absurd same (by simpa using apart k (List.mem_of_mem_tail hk))

/-- What two characters are read as. -/
theorem exists_letters_of_reach {c e : Char} {n : Nat}
    (reached : DigraphTable.words.reach [c, e] = some n) :
    ∃ d ∈ DigraphTable.words, ∃ k l, d.1 = [k, l] ∧ sameLetter c k = true ∧
      sameLetter e l = true := by
  obtain ⟨⟨d, readable, opening, _⟩, _⟩ := DigraphTable.reach_eq_some_iff.1 reached
  have hd := (DigraphTable.mem_of_mem_readable readable).1
  have several := DigraphTable.two_le_length_words d hd
  have inside := DigraphTable.length_le_of_opens opening
  obtain ⟨k, l, letters⟩ := List.length_eq_two.1 (Nat.le_antisymm inside several)
  rw [letters] at opening
  simp only [DigraphTable.opens, Bool.and_true, Bool.and_eq_true] at opening
  exact ⟨d, hd, k, l, letters, opening⟩

/-- Before a stand-in, no character begins a digraph but an `s` before `ſ`. -/
theorem reach_before_standIn {d : Text × Text} (hd : d ∈ DigraphTable.words) {s : Char}
    (single : d.2 = [s]) {c : Char} (apart : ¬(s = 'ſ' ∧ sameLetter c 's' = true)) :
    DigraphTable.words.reach [c, s] = none := by
  cases reached : DigraphTable.words.reach [c, s] with
  | none => rfl
  | some n =>
    obtain ⟨e, he, k, l, letters, first, second⟩ := exists_letters_of_reach reached
    obtain ⟨rfl, geminate⟩ := (standIn_meets d hd s (by simp [single]) e he).2 l (by simp [letters])
      second
    rw [letters, List.cons.injEq] at geminate
    exact absurd ⟨rfl, geminate.1 ▸ first⟩ apart

/-- A stand-in begins no digraph but as `ŋ` before a `w` and as `ſ` before an `s`. -/
theorem reach_after_standIn {d : Text × Text} (hd : d ∈ DigraphTable.words) {s : Char}
    (single : d.2 = [s]) {c : Char} (noW : ¬(s = 'ŋ' ∧ sameLetter c 'w' = true))
    (noS : ¬(s = 'ſ' ∧ sameLetter c 's' = true)) : DigraphTable.words.reach [s, c] = none := by
  cases reached : DigraphTable.words.reach [s, c] with
  | none => rfl
  | some n =>
    obtain ⟨e, he, k, l, letters, first, second⟩ := exists_letters_of_reach reached
    have which := (standIn_meets d hd s (by simp [single]) e he).1 k (by simp [letters]) first
    simp only [letters, List.cons.injEq, and_true] at which
    rcases which with ⟨velar, _, rfl⟩ | ⟨long, _, rfl⟩
    · exact absurd ⟨velar, second⟩ noW
    · exact absurd ⟨long, second⟩ noS

/-- A stand-in is read by itself before any letter, but that of `ng` before a `w` and that of `ss`
    before an `s`. -/
theorem reach_standIn_cons {d : Text × Text} (hd : d ∈ DigraphTable.words) {s : Char}
    (single : d.2 = [s]) {c : Char} (noW : ¬(d.1 = ['n', 'g'] ∧ sameLetter c 'w' = true))
    (noS : ¬(d.1 = ['s', 's'] ∧ sameLetter c 's' = true)) (u : Text) :
    DigraphTable.words.reach (s :: c :: u) = none := by
  have velar : ∀ d ∈ DigraphTable.words, d.2 = ['ŋ'] → d.1 = ['n', 'g'] := by decide
  have geminate : ∀ d ∈ DigraphTable.words, d.2 = ['ſ'] → d.1 = ['s', 's'] := by decide
  rw [reach_cons_eq_none_iff]
  simp only [List.head?_cons, Option.mem_some_iff, forall_eq']
  refine reach_after_standIn hd single ?_ ?_
  · rintro ⟨rfl, isW⟩
    exact noW ⟨velar d hd single, isW⟩
  · rintro ⟨rfl, isS⟩
    exact noS ⟨geminate d hd single, isS⟩

/-- A stand-in is read by itself before another one, unless both stand for `ss`. -/
theorem reach_standIn_standIn {d e : Text × Text} (hd : d ∈ DigraphTable.words)
    (he : e ∈ DigraphTable.words) {s r : Char} (single : d.2 = [s]) (next : e.2 = [r])
    (apart : ¬(d.1 = ['s', 's'] ∧ e.2 = ['ſ'])) (u : Text) :
    DigraphTable.words.reach (s :: r :: u) = none := by
  have meets := standIn_meets e he r (by simp [next])
  refine reach_standIn_cons hd single ?_ ?_ u
  · -- No stand-in is read as a `w`.
    rintro ⟨_, isW⟩
    exact absurd ((meets (['ŋ', 'w'], ['ꞑ']) (by decide)).2 'w' (by decide) isW).2 (by decide)
  · rintro ⟨geminate, isS⟩
    obtain ⟨rfl, _⟩ := (meets (['s', 's'], ['ſ']) (by decide)).2 's' (by decide) isS
    exact apart ⟨geminate, next⟩

/-! ## Pieces that meet -/

/-- The digraph `ss` before another `s`. -/
def Grapheme.MeetsS (g next : Grapheme) : Prop :=
  g.isDigraph = true ∧ g.head.map lowerLetter = ['s', 's'] ∧
    next.head.head?.any (sameLetter · 's') = true

/-- The digraph `ng` before a `w` that is read by itself. -/
def Grapheme.TakesW (g next : Grapheme) : Prop :=
  g.isDigraph = true ∧ g.head.map lowerLetter = ['n', 'g'] ∧ next.head.map lowerLetter = ['w']

instance (g next : Grapheme) : Decidable (g.MeetsS next) := inferInstanceAs (Decidable (_ ∧ _))

instance (g next : Grapheme) : Decidable (g.TakesW next) := inferInstanceAs (Decidable (_ ∧ _))

theorem isPlainLetter_w : isPlainLetter 'w' = true := by decide +kernel

/-- A digraph that is folded to `ſ` begins with an `s`. -/
theorem exists_head_of_longS {d : Text × Text} (hd : d ∈ DigraphTable.words) (long : d.2 = ['ſ'])
    {spelling : Text} (small : spelling.map lowerLetter = d.1) :
    ∃ a u, spelling = a :: u ∧ sameLetter a 's' = true := by
  have geminate : ∀ d ∈ DigraphTable.words, d.2 = ['ſ'] → d.1 = ['s', 's'] := by decide
  rw [geminate d hd long] at small
  obtain ⟨a, u, rfl, first, _⟩ := List.map_eq_cons_iff.1 small
  exact ⟨a, u, rfl, sameLetter_of_lowerLetter first⟩

/-- A character that is read by itself is read by itself before the folded text. -/
theorem reach_cons_folded {c : Char} {t : Text} {gs : List Grapheme} (scans : Scans t gs)
    (unread : DigraphTable.words.reach (c :: t) = none) :
    DigraphTable.words.reach (c :: t.fold DigraphTable.words) = none := by
  cases scans with
  | nil => rwa [fold_words_nil]
  | letter other later =>
    rw [reach_cons_eq_none_iff] at unread ⊢
    rwa [fold_words_cons other]
  | @digraph d spelling rest gs hd small standIn reached later =>
    obtain ⟨s, single, _⟩ := isStandIn_of_mem_words hd
    rw [fold_words_append reached standIn, single, reach_cons_eq_none_iff]
    simp only [List.cons_append, List.head?_cons, Option.mem_some_iff, forall_eq']
    refine reach_before_standIn hd single ?_
    rintro ⟨rfl, same⟩
    -- Of three letters `s`, the first two would have been read as a digraph.
    obtain ⟨a, u, rfl, first⟩ := exists_head_of_longS hd single small
    have geminate : (['s', 's'], ['ſ']) ∈ DigraphTable.words.readable := by
      rw [DigraphTable.readable_words]
      decide
    have closed := DigraphTable.reach_eq_none_iff.1 unread _ geminate
    simp [DigraphTable.opens, same, first] at closed

/-- What a stand-in is read as before the folded text, where it is not the `ſ` before an `s`. -/
theorem standIn_before_folded {d : Text × Text} (hd : d ∈ DigraphTable.words) {s : Char}
    (single : d.2 = [s]) {spelling : Text} (small : spelling.map lowerLetter = d.1) {t : Text}
    {gs : List Grapheme} (scans : Scans t gs)
    (apart : ∀ next ∈ gs.head?, ¬(Grapheme.digraph spelling).MeetsS next) :
    (∀ next ∈ gs.head?, ¬(Grapheme.digraph spelling).TakesW next) ∧
        DigraphTable.words.reach (s :: t.fold DigraphTable.words) = none ∨
      (∃ next ∈ gs.head?, (Grapheme.digraph spelling).TakesW next) ∧ s = 'ŋ' ∧
        ∃ w u, t.fold DigraphTable.words = w :: u ∧ lowerLetter w = 'w' ∧
          DigraphTable.words.reach (w :: u) = none := by
  have velar : ∀ d ∈ DigraphTable.words, d.1 = ['n', 'g'] → d.2 = ['ŋ'] := by decide
  cases scans with
  | nil =>
    left
    simp [DigraphTable.reach_singleton DigraphTable.two_le_length_words]
  | @letter c t gs unread later =>
    -- The character stays; it is a `w` after an `ŋ`, or it is read by itself.
    simp only [List.head?_cons, Option.mem_some_iff, forall_eq', exists_eq_left'] at apart ⊢
    rw [fold_words_cons unread]
    by_cases takes : (Grapheme.digraph spelling).TakesW (.single c)
    · right
      have isVelar := velar d hd (small.symm.trans takes.2.1)
      rw [single, List.singleton_inj] at isVelar
      refine ⟨takes, isVelar, c, _, rfl, ?_, reach_cons_folded later unread⟩
      simpa [Grapheme.single] using takes.2.2
    · left
      refine ⟨takes, reach_standIn_cons hd single ?_ ?_ _⟩
      · rintro ⟨isVelar, same⟩
        refine takes ⟨rfl, small.trans isVelar, ?_⟩
        simp [Grapheme.single, lowerLetter_eq_of_sameLetter isPlainLetter_w same]
      · rintro ⟨geminate, same⟩
        exact apart ⟨rfl, small.trans geminate, by simpa [Grapheme.single] using same⟩
  | @digraph d' other rest gs hd' small' standIn reached later =>
    left
    obtain ⟨r, single', _⟩ := isStandIn_of_mem_words hd'
    simp only [List.head?_cons, Option.mem_some_iff, forall_eq'] at apart ⊢
    constructor
    · rintro ⟨_, _, one⟩
      have several := DigraphTable.two_le_length_words d' hd'
      rw [← small', show other.map lowerLetter = ['w'] from one, List.length_singleton] at several
      omega
    · rw [fold_words_append reached standIn, single', List.singleton_append]
      refine reach_standIn_standIn hd hd' single single' ?_ _
      rintro ⟨geminate, long⟩
      obtain ⟨a, u, rfl, first⟩ := exists_head_of_longS hd' long small'
      exact apart ⟨rfl, small.trans geminate, by simpa [Grapheme.digraph] using first⟩

/-! ## Folding again -/

/-- The digraph `ŋw` in a folded text. -/
theorem read_velar_w {w : Char} (small : lowerLetter w = 'w') (u : Text) :
    Text.scan ('ŋ' :: w :: u) = .digraph ['ŋ', w] :: u.scan ∧
      Text.fold DigraphTable.words ('ŋ' :: w :: u) = 'ꞑ' :: u.fold DigraphTable.words := by
  have listed : ((['ŋ', 'w'], ['ꞑ']) : Text × Text) ∈ DigraphTable.words := by decide
  have letters : ['ŋ', 'w'].map lowerLetter = ['ŋ', 'w'] :=
    DigraphTable.map_lowerLetter_words _ listed
  have spelled : ['ŋ', w].map lowerLetter = ['ŋ', 'w'] := by
    rw [List.map_cons, List.map_singleton, (List.cons.inj letters).1, small]
  have same : (['ŋ', w] ++ u).map lowerLetter = (['ŋ', 'w'] ++ u).map lowerLetter := by
    rw [List.map_append, List.map_append, spelled, letters]
  have reached : DigraphTable.words.reach (['ŋ', w] ++ u) = some 2 := by
    rw [DigraphTable.reach_congr same]
    exact (reach_append_eq_some_iff listed).2 fun _ _ aspirated => absurd aspirated (by decide)
  have others := ne_of_sameLetter isPlainLetter_w (sameLetter_of_lowerLetter small)
  have standIn : DigraphTable.words.standIn? ['ŋ', w] = some ['ꞑ'] := by
    rw [DigraphTable.standIn?, Text.lower,
      lowerFrom_eq_map _ _ (by simp [others.1.symm]) (by simp [others.2.symm]), spelled]
    decide
  exact ⟨scan_append reached, fold_words_append reached standIn⟩

/-- Along the scan of a text, everything is folded to itself but an `ŋ` before a `w`. -/
theorem fold_folded_eq_iff {t : Text} {gs : List Grapheme} (scans : Scans t gs)
    (apart : gs.IsChain fun g next => ¬g.MeetsS next) :
    (t.fold DigraphTable.words).fold DigraphTable.words = t.fold DigraphTable.words ↔
      gs.IsChain fun g next => ¬g.TakesW next := by
  induction scans with
  | nil => simp
  | @letter c t gs unread later ih =>
    have again := reach_cons_folded later unread
    rw [fold_words_cons unread, fold_words_cons again, List.cons_inj_right,
      ih (List.isChain_cons.1 apart).2, List.isChain_cons]
    simp [Grapheme.TakesW, Grapheme.single]
  | @digraph d spelling rest gs hd small standIn reached later ih =>
    obtain ⟨s, single, _⟩ := isStandIn_of_mem_words hd
    obtain ⟨here, others⟩ := List.isChain_cons.1 apart
    rw [fold_words_append reached standIn, single, List.singleton_append, List.isChain_cons]
    -- Either the stand-in stays, and the rest is folded as before, or `ŋw` becomes one letter.
    rcases standIn_before_folded hd single small later here with
      ⟨free, unread⟩ | ⟨⟨next, first, takes⟩, rfl, w, u, folded, isW, _⟩
    · rw [fold_words_cons unread, List.cons_inj_right, ih others]
      exact ⟨fun chain => ⟨free, chain⟩, And.right⟩
    · rw [folded, (read_velar_w isW u).2]
      exact ⟨fun same => absurd (List.cons.inj same).1 (by decide),
        fun chain => absurd takes (chain.1 next first)⟩

/-- Along the scan of a text, folding leaves no digraph with a long `ſ` but where it was `ss` before
    another `s`. -/
theorem not_isLongGeminate_of_mem_scan_fold {t : Text} {gs : List Grapheme} (scans : Scans t gs)
    (apart : gs.IsChain fun g next => ¬g.MeetsS next) :
    ∀ g ∈ (t.fold DigraphTable.words).scan, ¬g.IsLongGeminate := by
  have single_not : ∀ c, ¬(Grapheme.single c).IsLongGeminate := fun c geminate =>
    absurd geminate.1 (by simp [Grapheme.single])
  induction scans with
  | nil => simp [Text.scan]
  | @letter c t gs unread later ih =>
    rw [fold_words_cons unread, scan_cons (reach_cons_folded later unread)]
    exact List.forall_mem_cons.2 ⟨single_not c, ih (List.isChain_cons.1 apart).2⟩
  | @digraph d spelling rest gs hd small standIn reached later ih =>
    obtain ⟨s, single, _⟩ := isStandIn_of_mem_words hd
    obtain ⟨here, others⟩ := List.isChain_cons.1 apart
    have ih := ih others
    rw [fold_words_append reached standIn, single, List.singleton_append]
    rcases standIn_before_folded hd single small later here with
      ⟨_, unread⟩ | ⟨_, rfl, w, u, folded, isW, unread⟩
    · rw [scan_cons unread]
      exact List.forall_mem_cons.2 ⟨single_not s, ih⟩
    · rw [folded, scan_cons unread] at ih
      rw [folded, (read_velar_w isW u).1]
      refine List.forall_mem_cons.2 ⟨fun geminate => ?_, (List.forall_mem_cons.1 ih).2⟩
      have velar := sameLetter_s_iff.1 (geminate.2.2.1 'ŋ' List.mem_cons_self)
      exact absurd velar (by decide)

/-- A word without a long `ſ`, in which no `ss` is read before another `s`, can be folded, and so
    can the folded word. This stays as it is exactly if no `ng` is read before a `w` by itself. -/
theorem fold?_folded_eq_iff {word : Text} (short : 'ſ' ∉ word)
    (apart : word.scan.IsChain fun g next => ¬g.MeetsS next) :
    ∃ folded again, word.fold? DigraphTable.words = .ok folded ∧
      folded.fold? DigraphTable.words = .ok again ∧
      (again = folded ↔ word.scan.IsChain fun g next => ¬g.TakesW next) := by
  have scans := scans_scan short
  have listed : firstUnlisted? DigraphTable.words (word.fold DigraphTable.words).scan = none := by
    rw [firstUnlisted?_scan, Option.map_eq_none_iff, Text.longGeminate?, Option.map_eq_none_iff,
      List.find?_eq_none]
    intro g member geminate
    exact not_isLongGeminate_of_mem_scan_fold scans apart g member (of_decide_eq_true geminate)
  refine ⟨_, _, Text.fold?_eq_ok (lists_words short), ?_, fold_folded_eq_iff scans apart⟩
  rw [Text.fold?, ← Text.scan, listed]

-- `ng` before the digraph `hw`, a `w` after another stand-in, `ss` before and after other letters.
theorem fold?_folded_of_neighbours :
    let word : Text := ['k', 'ʰ', 'w', 'a', 'N', 'g', 'h', 'w', 'a', 's', 's', 't', 'h', 'w', 'S',
      'S', 'n', 'g']
    'ſ' ∉ word ∧ (word.scan.IsChain fun g next => ¬g.MeetsS next) ∧
      (word.scan.IsChain fun g next => ¬g.TakesW next) ∧
      ∃ folded, word.fold? DigraphTable.words = .ok folded ∧
        folded.fold? DigraphTable.words = .ok folded := by
  intro word
  have short : 'ſ' ∉ word := by decide
  have apart : word.scan.IsChain fun g next => ¬g.MeetsS next := by decide +kernel
  have free : word.scan.IsChain fun g next => ¬g.TakesW next := by decide +kernel
  obtain ⟨folded, again, first, second, same⟩ := fold?_folded_eq_iff short apart
  exact ⟨short, apart, free, folded, first, (same.2 free) ▸ second⟩

/-- `ŋw` is the spelling of a stand-in, whatever the `ŋ` was folded from; and `ſs`, which is folded
    from three letters `s`, cannot be folded. -/
theorem fold?_joins_standIns :
    'ſ' ∉ ['n', 'g', 'w'] ∧ Text.fold? DigraphTable.words ['n', 'g', 'w'] = .ok ['ŋ', 'w'] ∧
      Text.fold? DigraphTable.words ['ŋ', 'w'] = .ok ['ꞑ'] ∧
      'ſ' ∉ ['s', 's', 's'] ∧ Text.fold? DigraphTable.words ['s', 's', 's'] = .ok ['ſ', 's'] ∧
      Text.fold? DigraphTable.words ['ſ', 's'] = .error (.unlistedDigraph ['ſ', 's']) := by
  decide +kernel

end SoundLaw
