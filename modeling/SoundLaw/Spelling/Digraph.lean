/-
  SoundLaw.Spelling.Digraph

  Digraphs: spellings of several letters for one phoneme, each with the single character that
  stands in for it. Which digraphs are read depends on what is read: words, rule notation or
  syllables. `reach` is the length of the longest digraph at the start of a text.
-/
import SoundLaw.Text.Case

namespace SoundLaw

/-- A table of digraphs: spellings, and the stand-in of each. -/
abbrev DigraphTable := List (Text × Text)

namespace DigraphTable

/-! ## The tables -/

/-- The digraphs of words. Two spellings can share a stand-in; the first one is canonical. -/
def words : DigraphTable := [
  (['k', 'ʰ', 'w'], ['ꝃ']), (['c', 'h'], ['x']), (['d', 'h'], ['ð']), (['g', 'w'], ['ƣ']),
  (['h', 'w'], ['ʍ']), (['k', 'h'], ['x']), (['k', 'w'], ['ƙ']), (['k', 'ʰ'], ['ꝁ']),
  (['l', 'h'], ['λ']), (['n', 'g'], ['ŋ']), (['p', 'h'], ['ɸ']), (['p', 'ʰ'], ['ƥ']),
  (['r', 'h'], ['ꝛ']), (['s', 's'], ['ſ']), (['t', 'h'], ['θ']), (['t', 'ʰ'], ['ŧ']),
  (['w', 'h'], ['ʍ']), (['ŋ', 'w'], ['ꞑ'])]

/-- The digraphs of rule notation, where a geminate takes two slots. -/
def rules : DigraphTable := words.filter fun d => d.1 != ['s', 's']

/-- The digraphs of syllables, where two clusters of three letters stay together too. -/
def syllables : DigraphTable :=
  rules ++ [(['c', 'h', 'w'], ['ꭓ']), (['n', 't', 'h'], ['ꞥ'])]

/-- The table without digraphs. -/
def letters : DigraphTable := []

/-! ## Look-up -/

/-- Whether a spelling opens a text, case aside. -/
def opens : Text → Text → Bool
  | [], _ => true
  | _ :: _, [] => false
  | k :: spelling, c :: t => sameLetter c k && opens spelling t

/-- Whether the spellings of a table, of which there are several, differ in the last letter alone. -/
def differsInLast (table : DigraphTable) : Bool :=
  match table.map (·.1) with
  | spelling :: others =>
    !others.isEmpty && (spelling :: others).all fun other =>
      !other.isEmpty && other.dropLast == spelling.dropLast
  | [] => false

/-- Whether a letter is a capital beyond the basic plane. -/
def isFarCapital (c : Char) : Bool := 0x10000 ≤ c.toNat && lowerLetter c != c

/-- The digraphs of a table that can be read. A spelling without letters is never read. Where the
    spellings differ in the last letter alone, that letter is compared with the lower case of the
    text, and a capital beyond the basic plane is not lowered before. -/
def readable (table : DigraphTable) : DigraphTable :=
  table.filter fun d =>
    !d.1.isEmpty && !(table.differsInLast && d.1.getLast?.any isFarCapital)

/-- The length of the longest digraph that opens a text. -/
def reach (table : DigraphTable) (t : Text) : Option Nat :=
  ((table.readable.filter fun d => opens d.1 t).map (·.1.length)).max?

/-- The stand-in of a digraph as it is spelled in a text, if the table lists its lower case. -/
def standIn? (table : DigraphTable) (spelling : Text) : Option Text :=
  table.lookup spelling.lower

theorem length_le_of_opens {spelling t : Text} (h : opens spelling t = true) :
    spelling.length ≤ t.length := by
  induction spelling generalizing t with
  | nil => exact Nat.zero_le _
  | cons k spelling ih =>
    cases t with
    | nil => simp [opens] at h
    | cons c t =>
      simp only [opens, Bool.and_eq_true] at h
      simpa using ih h.2

/-- A digraph that can be read is one of the table, and has letters. -/
theorem mem_of_mem_readable {table : DigraphTable} {d : Text × Text} (h : d ∈ table.readable) :
    d ∈ table ∧ d.1 ≠ [] := by
  simp only [readable, List.mem_filter, Bool.and_eq_true, Bool.not_eq_true',
    List.isEmpty_eq_false_iff] at h
  exact ⟨h.1, h.2.1⟩

/-- `reach` is the length of an opening digraph, and no opening digraph is longer. -/
theorem reach_eq_some_iff {table : DigraphTable} {t : Text} {n : Nat} :
    reach table t = some n ↔
      (∃ d ∈ table.readable, opens d.1 t = true ∧ d.1.length = n) ∧
        ∀ d ∈ table.readable, opens d.1 t = true → d.1.length ≤ n := by
  simp only [reach, List.max?_eq_some_iff, List.mem_map, List.mem_filter]
  constructor
  · rintro ⟨⟨d, ⟨member, opening⟩, length⟩, longest⟩
    exact ⟨⟨d, member, opening, length⟩, fun e listed h => longest _ ⟨e, ⟨listed, h⟩, rfl⟩⟩
  · rintro ⟨⟨d, member, opening, length⟩, longest⟩
    refine ⟨⟨d, ⟨member, opening⟩, length⟩, ?_⟩
    rintro _ ⟨e, ⟨listed, h⟩, rfl⟩
    exact longest e listed h

/-- Nothing is reached exactly if no digraph opens the text. -/
theorem reach_eq_none_iff {table : DigraphTable} {t : Text} :
    reach table t = none ↔ ∀ d ∈ table.readable, opens d.1 t = false := by
  simp [reach, List.max?_eq_none_iff, List.filter_eq_nil_iff]

theorem readable_words : readable words = words := by decide +kernel

theorem readable_rules : readable rules = rules := by decide +kernel

/-! ## Plain tables

A digraph that is read without regard to case is looked up by its lower case. In a table whose
spellings are made of plain letters, the look-up cannot fail. -/

/-- Whether all spellings of a table are made of plain letters. -/
def isPlain (table : DigraphTable) : Bool := table.all fun d => d.1.all isPlainLetter

/-- What is read in a text as a letter of a table has this letter as its lower case, whatever its
    neighbours. -/
def Lists (table : DigraphTable) (t : Text) : Prop :=
  ∀ d ∈ table, ∀ k ∈ d.1, ∀ c ∈ t, sameLetter c k = true →
    lowerLetter c = k ∧ c ≠ 'Σ' ∧ c ≠ 'İ'

theorem isPlain_rules : isPlain rules = true := by decide +kernel

theorem isPlain_syllables : isPlain syllables = true := by decide +kernel

theorem isPlain_letters : isPlain letters = true := rfl

theorem lists_of_isPlain {table : DigraphTable} (plain : table.isPlain = true) (t : Text) :
    table.Lists t := by
  intro d member k letter c _ same
  have plain := List.all_eq_true.1 (List.all_eq_true.1 plain d member) k letter
  exact ⟨lowerLetter_eq_of_sameLetter plain same, ne_of_sameLetter plain same⟩

theorem Lists.mono {table : DigraphTable} {t u : Text} (h : table.Lists t)
    (part : ∀ c ∈ u, c ∈ t) : table.Lists u :=
  fun d member k letter c inside same => h d member k letter c (part c inside) same

theorem map_lowerLetter_take_of_opens {spelling t : Text}
    (letters : ∀ k ∈ spelling, ∀ c ∈ t, sameLetter c k = true →
      lowerLetter c = k ∧ c ≠ 'Σ' ∧ c ≠ 'İ')
    (opening : opens spelling t = true) :
    (t.take spelling.length).map lowerLetter = spelling ∧
      'Σ' ∉ t.take spelling.length ∧ 'İ' ∉ t.take spelling.length := by
  induction spelling generalizing t with
  | nil => simp
  | cons k spelling ih =>
    cases t with
    | nil => simp [opens] at opening
    | cons c t =>
      simp only [opens, Bool.and_eq_true] at opening
      obtain ⟨small, noSigma, noDot⟩ := letters k (by simp) c (by simp) opening.1
      obtain ⟨same, sigma, dotted⟩ := ih (fun l hl d hd =>
        letters l (List.mem_cons_of_mem k hl) d (List.mem_cons_of_mem c hd)) opening.2
      simp [same, small, sigma, dotted, noSigma.symm, noDot.symm]

/-- A digraph of a table that lists the text has a stand-in, in whatever case it is spelled. -/
theorem isSome_standIn?_of_reach {table : DigraphTable} {t : Text} (lists : table.Lists t) {n : Nat}
    (h : reach table t = some n) : (standIn? table (t.take n)).isSome = true := by
  obtain ⟨⟨d, member, opening, rfl⟩, _⟩ := reach_eq_some_iff.1 h
  have member := (mem_of_mem_readable member).1
  obtain ⟨same, sigma, dotted⟩ := map_lowerLetter_take_of_opens (lists d member) opening
  rw [standIn?, Text.lower, lowerFrom_eq_map _ _ sigma dotted, same, List.lookup_isSome_iff]
  exact ⟨d, member, beq_self_eq_true d.1⟩

theorem exists_standIn?_of_reach {table : DigraphTable} (plain : table.isPlain = true) {t : Text}
    {n : Nat} (h : reach table t = some n) : ∃ standIn, standIn? table (t.take n) = some standIn :=
  Option.isSome_iff_exists.1 (isSome_standIn?_of_reach (lists_of_isPlain plain t) h)

end DigraphTable

end SoundLaw
