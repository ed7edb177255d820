/-
  SoundLaw.Proofs.Spelling.LongGeminate

  Which digraphs have no stand-in. Digraphs are read without regard to case, and looked up in lower
  case. A long `ſ` is read as an `s` and is a small letter itself, so that `ss` with a long `ſ` in
  it is read and not found; all other digraphs are found (`standIn?_of_reach`). The first of these
  is what both folding a word and reading its phonemes fail at (`lookup_fails_iff`).
-/
import SoundLaw.Proofs.Spelling.DigraphLetters
import SoundLaw.Proofs.Spelling.RoundTrip

namespace SoundLaw

/-! ## The letter `s` -/

/-- A letter that is read as an `s` is a small one, a capital one or a long one. -/
theorem sameLetter_s_iff {c : Char} :
    sameLetter c 's' = true ↔ c = 's' ∨ c = 'S' ∨ c = 'ſ' := by
  constructor
  · intro same
    by_cases long : c = 'ſ'
    · exact Or.inr (Or.inr long)
    have small := lowerLetter_eq_s_of_sameLetter long same
    rcases eq_or_exists_run_of_lowerLetter small (by decide) with small |
      ⟨r, member, image, code, last⟩
    · exact Or.inl small
    · -- Of all runs of capitals, only that of the basic letters comes to an `s`.
      have runs : (lowerRuns.all fun r => Nat.blt 's'.toNat r.image ||
          Nat.blt r.last (r.first + ('s'.toNat - r.image)) ||
          Nat.beq (r.first + ('s'.toNat - r.image)) 'S'.toNat) = true := by decide +kernel
      have checked := List.all_eq_true.1 runs r member
      rw [Bool.or_eq_true, Bool.or_eq_true, Nat.blt_eq, Nat.blt_eq, Nat.beq_eq] at checked
      rcases checked with (before | after) | capital
      · omega
      · omega
      · exact Or.inr (Or.inl (Char.toNat_inj.1 (code.trans capital)))
  · rintro (rfl | rfl | rfl) <;> decide +kernel

/-- No mark opens a digraph of words. -/
theorem leavesMarks_words (t : Text) : DigraphTable.words.LeavesMarks t := by
  intro c hc mark d hd k hk
  have others : ∀ d ∈ DigraphTable.words, d ∈ DigraphTable.rules ∨ d.1 = ['s', 's'] := by decide
  rcases others d hd with listed | geminate
  · exact leavesMarks_rules t c hc mark d listed k hk
  · obtain rfl : 's' = k := by simpa [geminate] using hk
    rw [← Bool.not_eq_true]
    intro same
    have low : c.toNat < 0x300 := by
      rcases sameLetter_s_iff.1 same with rfl | rfl | rfl <;> decide
    exact absurd mark (by simp [isMark_eq_false_of_lt low])

/-! ## Digraphs with a long `ſ` -/

/-- The digraph `ss` as it is read with a long `ſ`, in one of its letters or in both. -/
def Grapheme.IsLongGeminate (g : Grapheme) : Prop :=
  g.isDigraph = true ∧ g.head.length = 2 ∧ (∀ c ∈ g.head, sameLetter c 's' = true) ∧ 'ſ' ∈ g.head

instance (g : Grapheme) : Decidable g.IsLongGeminate := inferInstanceAs (Decidable (_ ∧ _))

/-- Only `ss` is read with a long `ſ` in it. -/
theorem eq_geminate_of_longS : ∀ d ∈ DigraphTable.words, ∀ k ∈ d.1,
    sameLetter 'ſ' k = true → d.1 = ['s', 's'] := by
  have each : ∀ d ∈ DigraphTable.words,
      d.1 = ['s', 's'] ∨ (d.1.all fun k => !sameLetter 'ſ' k) = true := by decide +kernel
  intro d hd k hk same
  rcases each d hd with geminate | others
  · exact geminate
  · exact absurd same (by simpa using List.all_eq_true.1 others k hk)

/-- No spelling with a long `ſ` is listed. -/
theorem standIn?_of_longS {spelling : Text} (letters : ∀ c ∈ spelling, sameLetter c 's' = true)
    (long : 'ſ' ∈ spelling) : DigraphTable.words.standIn? spelling = none := by
  have sigma : 'Σ' ∉ spelling := fun member => absurd (letters 'Σ' member) (by decide +kernel)
  have dotted : 'İ' ∉ spelling := fun member => absurd (letters 'İ' member) (by decide +kernel)
  have small : lowerLetter 'ſ' = 'ſ' := by decide +kernel
  rw [← Option.not_isSome_iff_eq_none, DigraphTable.standIn?, Text.lower,
    lowerFrom_eq_map _ _ sigma dotted, List.lookup_isSome_iff]
  rintro ⟨d, hd, same⟩
  have short : ∀ d ∈ DigraphTable.words, 'ſ' ∉ d.1 := by decide
  refine short d hd ?_
  rw [← beq_iff_eq.1 same, ← small]
  exact List.mem_map_of_mem long

/-- What is read as a digraph is either `ss` with a long `ſ`, which is not listed, or has no long
    `ſ` and is listed. -/
theorem standIn?_of_reach {t : Text} {n : Nat} (reached : DigraphTable.words.reach t = some n) :
    (n = 2 ∧ (∀ c ∈ t.take n, sameLetter c 's' = true) ∧ 'ſ' ∈ t.take n ∧
        DigraphTable.words.standIn? (t.take n) = none) ∨
      ('ſ' ∉ t.take n ∧ (DigraphTable.words.standIn? (t.take n)).isSome = true) := by
  obtain ⟨⟨d, readable, opening, length⟩, longest⟩ := DigraphTable.reach_eq_some_iff.1 reached
  by_cases long : 'ſ' ∈ t.take n
  · left
    subst length
    have listed := (DigraphTable.mem_of_mem_readable readable).1
    have letters := DigraphTable.exists_sameLetter_of_opens opening
    obtain ⟨k, hk, same⟩ := letters 'ſ' long
    have geminate := eq_geminate_of_longS d listed k hk same
    have each : ∀ c ∈ t.take d.1.length, sameLetter c 's' = true := by
      intro c hc
      obtain ⟨l, hl, same⟩ := letters c hc
      have letter : l = 's' := by simpa [geminate] using hl
      rwa [letter] at same
    exact ⟨by rw [geminate]; rfl, each, long, standIn?_of_longS each long⟩
  · right
    -- The digraph is read in the same way where nothing follows it.
    have inside : n ≤ t.length := length ▸ DigraphTable.length_le_of_opens opening
    have alone : DigraphTable.words.reach (t.take n) = some n := by
      rw [← reached]
      conv_rhs => rw [← List.take_append_drop n t]
      refine (DigraphTable.reach_append fun e he opening => ?_).symm
      rw [List.take_append_drop] at opening
      rw [List.length_take, Nat.min_eq_left inside]
      exact longest e he opening
    have found := DigraphTable.isSome_standIn?_of_reach (lists_words long) alone
    rw [List.take_take, Nat.min_self] at found
    exact ⟨long, found⟩

/-! ## The first failure -/

/-- A piece of a text that is read with the digraphs of words lacks a stand-in exactly if it is `ss`
    with a long `ſ`. -/
theorem unlisted?_eq_of_mem_graphemes {trails : Char → Bool} {t : Text} {g : Grapheme}
    (h : g ∈ graphemes DigraphTable.words trails t) :
    g.unlisted? DigraphTable.words = if g.IsLongGeminate then some g.head.lower else none := by
  fun_induction graphemes DigraphTable.words trails t with
  | case1 => simp at h
  | case2 c t rest ih =>
    rcases List.mem_cons.1 h with rfl | h
    · cases reached : DigraphTable.words.reach (c :: t) with
      | none => simp [Grapheme.unlisted?, Grapheme.IsLongGeminate]
      | some n =>
        rw [DigraphTable.cons_take_extent reached]
        rcases standIn?_of_reach reached with ⟨rfl, letters, long, missing⟩ | ⟨short, found⟩
        · have length : ((c :: t).take 2).length = 2 := by
            obtain ⟨⟨d, _, opening, length⟩, _⟩ := DigraphTable.reach_eq_some_iff.1 reached
            have inside := DigraphTable.length_le_of_opens opening
            rw [List.length_take]
            omega
          rw [if_pos ⟨rfl, length, letters, long⟩]
          rw [Grapheme.unlisted?, missing]
          rfl
        · rw [if_neg fun geminate => short geminate.2.2.2]
          simp [Grapheme.unlisted?, Option.isNone_eq_false_iff.2 found]
    · exact ih h

/-- The first digraph of a text that is read as `ss` with a long `ſ`, as it is spelled. -/
def Text.longGeminate? (t : Text) : Option Text :=
  (t.scan.find? fun g => g.IsLongGeminate).map Grapheme.head

theorem findSome?_unlisted?_eq {gs : List Grapheme} (each : ∀ g ∈ gs,
    g.unlisted? DigraphTable.words = if g.IsLongGeminate then some g.head.lower else none) :
    gs.findSome? (Grapheme.unlisted? DigraphTable.words) =
      ((gs.find? fun g => g.IsLongGeminate).map Grapheme.head).map Text.lower := by
  induction gs with
  | nil => rfl
  | cons g gs ih =>
    obtain ⟨here, later⟩ := List.forall_mem_cons.1 each
    rw [List.findSome?_cons, here, ih later]
    by_cases geminate : g.IsLongGeminate <;> simp [geminate]

theorem firstUnlisted?_scan (t : Text) :
    firstUnlisted? DigraphTable.words t.scan = t.longGeminate?.map Text.lower :=
  findSome?_unlisted?_eq fun _ member => unlisted?_eq_of_mem_graphemes member

theorem fold?_words_eq_error_iff {t : Text} {e : Error} :
    t.fold? DigraphTable.words = .error e ↔
      ∃ spelling, t.longGeminate? = some spelling ∧ e = .unlistedDigraph spelling.lower := by
  rw [Text.fold?, ← Text.scan, firstUnlisted?_scan]
  cases t.longGeminate? with
  | none => simp
  | some spelling => simp [eq_comm]

/-- Marks open no digraph of words, so that the phonemes of a word have the digraphs that folding
    reads. -/
theorem phonemes?_words_eq_error_iff {t : Text} {e : Error} :
    phonemes? DigraphTable.words t = .error e ↔
      ∃ spelling, t.longGeminate? = some spelling ∧ e = .unlistedDigraph spelling.lower := by
  rw [phonemes?, ← firstUnlisted?_flatMap_apart, ← graphemes_without_trails (leavesMarks_words t),
    ← Text.scan, firstUnlisted?_scan]
  cases t.longGeminate? with
  | none => simp
  | some spelling => simp [eq_comm]

/-- Folding a word and reading its phonemes always succeed with the digraphs of rules, with those of
    syllables and without digraphs. With the digraphs of words they fail exactly if the scan of the
    word reads an `ss` with a long `ſ`, at the first of which the lower case is not found. -/
theorem lookup_fails_iff (word : Text) :
    (∀ table ∈ [DigraphTable.rules, DigraphTable.syllables, DigraphTable.letters],
      (∃ folded, word.fold? table = .ok folded) ∧ ∃ ps, phonemes? table word = .ok ps) ∧
    (∀ e, word.fold? DigraphTable.words = .error e ↔
      ∃ spelling, word.longGeminate? = some spelling ∧ e = .unlistedDigraph spelling.lower) ∧
    ∀ e, phonemes? DigraphTable.words word = .error e ↔
      ∃ spelling, word.longGeminate? = some spelling ∧ e = .unlistedDigraph spelling.lower := by
  refine ⟨fun table member => ?_, fun _ => fold?_words_eq_error_iff,
    fun _ => phonemes?_words_eq_error_iff⟩
  have plain : table.isPlain = true := by
    rcases List.mem_cons.1 member with rfl | member
    · exact DigraphTable.isPlain_rules
    rcases List.mem_cons.1 member with rfl | member
    · exact DigraphTable.isPlain_syllables
    · rw [List.mem_singleton.1 member]
      exact DigraphTable.isPlain_letters
  exact ⟨⟨_, Text.fold?_eq_ok (DigraphTable.lists_of_isPlain plain word)⟩, _,
    phonemes?_eq_ok plain word⟩

end SoundLaw
