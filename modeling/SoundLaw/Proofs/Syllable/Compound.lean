/-
  SoundLaw.Proofs.Syllable.Compound

  Compounds. A compound is read letter by letter, because what looks like a digraph may be two
  letters that meet at the boundary between its members. So the flag of compounds can make a
  difference only where the letters of a digraph stand together: a word in which no digraph of
  syllables occurs has the same syllables with the flag and without it (`analyse_compound_eq`).
-/
import Mathlib.Data.List.Infix
import SoundLaw.Proofs.Phoneme.Cut
import SoundLaw.Proofs.Text.LetterCase
import SoundLaw.Syllable

namespace SoundLaw

/-! ## Occurrences of a digraph -/

/-- A spelling occurs in a text, case aside, if it stands anywhere in its lower-case letters. -/
def DigraphTable.OccursIn (spelling t : Text) : Prop := spelling <:+: t.map lowerLetter

instance (spelling t : Text) : Decidable (DigraphTable.OccursIn spelling t) :=
  inferInstanceAs (Decidable (spelling <:+: t.map lowerLetter))

theorem sameLetter_iff {c k : Char} (plain : isPlainLetter k = true) :
    sameLetter c k = true ↔ lowerLetter c = k :=
  ⟨lowerLetter_eq_of_sameLetter plain, sameLetter_of_lowerLetter⟩

/-- A spelling of plain letters opens a text if it starts its lower-case letters. -/
theorem DigraphTable.opens_iff_map_lowerLetter {spelling t : Text}
    (plain : ∀ k ∈ spelling, isPlainLetter k = true) :
    DigraphTable.opens spelling t = true ↔ spelling <+: t.map lowerLetter := by
  induction spelling generalizing t with
  | nil => simp [DigraphTable.opens]
  | cons k spelling ih =>
    obtain ⟨first, others⟩ := List.forall_mem_cons.1 plain
    cases t with
    | nil => simp [DigraphTable.opens]
    | cons c t =>
      rw [DigraphTable.opens, Bool.and_eq_true, sameLetter_iff first, ih others, List.map_cons,
        List.cons_prefix_cons, eq_comm]

/-- It occurs where the text is opened by it from some place on. -/
theorem DigraphTable.occursIn_iff_opens {spelling t : Text}
    (plain : ∀ k ∈ spelling, isPlainLetter k = true) :
    DigraphTable.OccursIn spelling t ↔
      ∃ rest, rest <:+ t ∧ DigraphTable.opens spelling rest = true := by
  rw [DigraphTable.OccursIn, List.infix_iff_prefix_suffix]
  constructor
  · rintro ⟨lowered, start, rest⟩
    rw [List.suffix_iff_eq_drop, ← List.map_drop] at rest
    exact ⟨_, List.drop_suffix _ t, (opens_iff_map_lowerLetter plain).2 (rest ▸ start)⟩
  · rintro ⟨rest, place, opening⟩
    exact ⟨rest.map lowerLetter, (opens_iff_map_lowerLetter plain).1 opening, place.map lowerLetter⟩

/-- Where no digraph of a plain table occurs, none is reached from any place on. -/
theorem DigraphTable.reach_eq_none_of_free {table : DigraphTable} (plain : table.isPlain = true)
    {t : Text} (free : ∀ d ∈ table, ¬ DigraphTable.OccursIn d.1 t) {rest : Text}
    (place : rest <:+ t) : table.reach rest = none := by
  rw [DigraphTable.reach_eq_none_iff]
  intro d hd
  have member := (DigraphTable.mem_of_mem_readable hd).1
  have letters := List.all_eq_true.1 (List.all_eq_true.1 plain d member)
  rw [← Bool.not_eq_true]
  exact fun opening => free d member ((occursIn_iff_opens letters).2 ⟨rest, place, opening⟩)

/-! ## Reading by two tables -/

/-- Two tables that reach alike from every place of a text on cut it alike. -/
theorem graphemes_congr {table other : DigraphTable} (trails : Char → Bool) {t : Text}
    (same : ∀ rest, rest <:+ t → table.reach rest = other.reach rest) :
    graphemes table trails t = graphemes other trails t := by
  fun_induction graphemes table trails t with
  | case1 => rw [graphemes_nil]
  | case2 c t rest ih =>
    have here := same (c :: t) List.suffix_rfl
    have later : rest.dropWhile trails <:+ c :: t :=
      (List.dropWhile_suffix trails).trans
        ((List.drop_suffix _ t).trans (List.suffix_cons c t))
    have extent : table.extent (c :: t) = other.extent (c :: t) := by
      rw [DigraphTable.extent, DigraphTable.extent, here]
    rw [ih fun after place => same after (place.trans later), graphemes, ← extent, ← here]

theorem isDigraph_eq_false_of_unread {table : DigraphTable} {trails : Char → Bool} {t : Text}
    (unread : ∀ rest, rest <:+ t → table.reach rest = none) {g : Grapheme}
    (member : g ∈ graphemes table trails t) : g.isDigraph = false := by
  fun_induction graphemes table trails t with
  | case1 => simp at member
  | case2 c t rest ih =>
    have later : rest.dropWhile trails <:+ c :: t :=
      (List.dropWhile_suffix trails).trans
        ((List.drop_suffix _ t).trans (List.suffix_cons c t))
    rcases List.mem_cons.1 member with rfl | member
    · rw [unread (c :: t) List.suffix_rfl, Option.isSome_none]
    · exact ih (fun after place => unread after (place.trans later)) member

/-- Phonemes depend on their table by its keys only. -/
theorem phonemesFrom_congr {table other : DigraphTable} {gs : List Grapheme}
    (same : ∀ g ∈ gs, g.key table = g.key other) (start : Nat) :
    phonemesFrom table start gs = phonemesFrom other start gs := by
  induction gs generalizing start with
  | nil => rfl
  | cons g gs ih =>
    obtain ⟨first, others⟩ := List.forall_mem_cons.1 same
    rw [phonemesFrom, phonemesFrom, first, ih others]

/-- Two tables that reach nothing in a word read the same phonemes in it. -/
theorem phonemes_eq_of_unread {table other : DigraphTable} (filled : ∀ d ∈ table, d.1 ≠ [])
    (filledOther : ∀ d ∈ other, d.1 ≠ []) {word : Text}
    (unread : ∀ rest, rest <:+ word → table.reach rest = none)
    (unreadOther : ∀ rest, rest <:+ word → other.reach rest = none) :
    phonemes table word = phonemes other word := by
  have cut : graphemes table isMark word = graphemes other isMark word :=
    graphemes_congr isMark fun rest place => (unread rest place).trans (unreadOther rest place).symm
  rw [phonemes, phonemes, ← cut]
  refine phonemesFrom_congr (fun g member => ?_) 0
  have letter := isDigraph_eq_false_of_unread unread member
  rw [Grapheme.key_of_letter filled letter, Grapheme.key_of_letter filledOther letter]

/-! ## The flag of compounds -/

theorem DigraphTable.ne_nil_syllables : ∀ d ∈ DigraphTable.syllables, d.1 ≠ [] := by decide

/-- A word without digraphs has the same phonemes as a compound. -/
theorem phonemes_forSyllables {word : Text}
    (free : ∀ d ∈ DigraphTable.syllables, ¬ DigraphTable.OccursIn d.1 word) (compound : Bool) :
    phonemes (DigraphTable.forSyllables compound) word = phonemes DigraphTable.letters word := by
  cases compound with
  | true => rfl
  | false =>
    refine phonemes_eq_of_unread DigraphTable.ne_nil_syllables (List.forall_mem_nil _) ?_ ?_
    · exact fun rest => DigraphTable.reach_eq_none_of_free DigraphTable.isPlain_syllables free
    · exact fun rest _ => rfl

/-- The flag of compounds makes no difference to the syllables of a word in which no digraph
    occurs, whatever its letters and whichever of them are vowels. -/
theorem analyse_compound_eq (v : VowelSystem) {word : Text}
    (free : ∀ d ∈ DigraphTable.syllables, ¬ DigraphTable.OccursIn d.1 word) :
    v.analyse word true = v.analyse word false := by
  have parts : v.divide word true = v.divide word false := by
    rw [VowelSystem.divide, VowelSystem.divide, phonemes_forSyllables free,
      phonemes_forSyllables free]
  rw [VowelSystem.analyse, VowelSystem.analyse, parts]

/-- In `Gandolf` the letters of `nt` and `nd` meet, but those of no digraph do. -/
theorem analyse_compound_eq_of_gandolf :
    (∀ d ∈ DigraphTable.syllables,
      ¬ DigraphTable.OccursIn d.1 ['G', 'a', 'n', 'd', 'o', 'l', 'f']) ∧
    VowelSystem.analyse {} ['G', 'a', 'n', 'd', 'o', 'l', 'f'] true =
      VowelSystem.analyse {} ['G', 'a', 'n', 'd', 'o', 'l', 'f'] false :=
  have free : ∀ d ∈ DigraphTable.syllables,
      ¬ DigraphTable.OccursIn d.1 ['G', 'a', 'n', 'd', 'o', 'l', 'f'] := by decide +kernel
  ⟨free, analyse_compound_eq {} free⟩

end SoundLaw
