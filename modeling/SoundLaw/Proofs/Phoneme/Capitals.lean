/-
  SoundLaw.Proofs.Phoneme.Capitals

  What is written for a phoneme with marks and a capital. The capital of a single letter is one
  character with marks, or it goes on to another letter, as that of `ß` does; and the marks that
  follow it make no difference to this (`keys_nfc_upperLetter_append`). The letters of a digraph have
  single capitals, so that all depends on whether a mark joins the last letter
  (`keys_nfc_of_opens`).
-/
import SoundLaw.Proofs.Phoneme.Reading
import SoundLaw.Proofs.Spelling.Unfolded
import SoundLaw.Proofs.Text.CapitalMarks

namespace SoundLaw

/-! ## Single letters -/

/-- Whether a text is one character with marks. -/
def Text.isOneUnit : Text → Bool
  | [] => false
  | c :: marks => marks.all isMark && (hangulLetters? c).isNone

/-- Whether a text ends in a letter of its own, after a text that is composed and begins with a
    letter of no digraph. -/
def Text.hasSecondLetter (t : Text) : Bool :=
  Text.nfc t.dropLast == t.dropLast && t.dropLast.head?.any (fun c => !isDigraphLetter c) &&
    t.getLast?.any fun c => !isMark c && c.toNat / 256 != 0x11 && (hangulLetters? c).isNone

theorem upperExpansions_cases : (upperExpansions.all fun row =>
    Text.isOneUnit (row.2.map Char.ofNat) || Text.hasSecondLetter (row.2.map Char.ofNat)) = true := by
  decide +kernel

/-- No run of capitals goes into the Hangul syllables. -/
theorem apart_upperRuns : (upperRuns.all fun r =>
    Nat.blt r.range.2.1 0xAC00 || Nat.blt 0xD7A3 r.range.1) = true := by
  decide +kernel

theorem hangulLetters?_apply_upperRuns {x : Char} (free : hangulLetters? x = none) :
    hangulLetters? (CodeRun.apply upperRuns x) = none := by
  rcases CodeRun.apply_eq_or upperRuns x with same | ⟨r, member, covers, mapped⟩
  · rwa [same]
  · have range := CodeRun.holds_range (CodeRun.covers_iff.1 covers)
    have checked := List.all_eq_true.1 apart_upperRuns r member
    rw [Bool.or_eq_true, Nat.blt_eq, Nat.blt_eq] at checked
    have low := range.1
    have high := range.2.1
    rw [mapped]
    apply hangulLetters?_of_outside
    by_cases valid : (r.image + (x.toNat - r.first)).isValidChar
    · rw [toNat_ofNat_of_isValidChar valid]
      omega
    · -- A number that is no code point gives the character of code point zero.
      left
      rw [Char.ofNat, dif_neg valid]
      decide

/-- The capital of a character is one character with marks, or it has a second letter. -/
theorem upperLetter_cases {x : Char} (free : hangulLetters? x = none) :
    (upperLetter x).isOneUnit = true ∨ (upperLetter x).hasSecondLetter = true := by
  rw [upperLetter]
  cases found : CodeMap.find? upperExpansions x.toNat with
  | none => exact Or.inl (by simp [Text.isOneUnit, hangulLetters?_apply_upperRuns free])
  | some codes =>
    have checked := List.all_eq_true.1 upperExpansions_cases _ (CodeMap.mem_of_find? found)
    rwa [Bool.or_eq_true] at checked

theorem not_opens_of_not_isDigraphLetter {x : Char} (other : isDigraphLetter x = false)
    {d : Text × Text} (hd : d ∈ DigraphTable.rules) (t : Text) :
    DigraphTable.opens d.1 (x :: t) = false := by
  rw [← Bool.not_eq_true]
  intro opening
  have several := DigraphTable.two_le_length_rules d hd
  have first : x ∈ (x :: t).take d.1.length := by
    rw [List.take_cons (by omega)]
    exact List.mem_cons_self
  obtain ⟨k, hk, same⟩ := DigraphTable.exists_sameLetter_of_opens opening x first
  have letter : isDigraphLetter x = true :=
    List.any_eq_true.2 ⟨d, hd, List.any_eq_true.2 ⟨k, hk, same⟩⟩
  rw [other] at letter
  exact absurd letter (by simp)

/-- A text with a second letter is not read as a single phoneme, whatever marks follow it. -/
theorem two_le_length_keys_of_hasSecondLetter {t rest : Text} (several : t.hasSecondLetter = true)
    (marked : ∀ m ∈ rest, isMark m = true) :
    2 ≤ (t ++ rest).keys.length ∧ 2 ≤ (t ++ rest).nfc.keys.length := by
  rw [Text.hasSecondLetter, Bool.and_eq_true, Bool.and_eq_true, beq_iff_eq] at several
  obtain ⟨⟨composed, begins⟩, ends⟩ := several
  obtain ⟨z, ends, last⟩ := (Option.any_eq_true _ _).1 ends
  obtain ⟨x, begins, first⟩ := (Option.any_eq_true _ _).1 begins
  have whole : t = t.dropLast ++ [z] :=
    (List.dropLast_append_getLast? z (Option.mem_def.2 ends)).symm
  generalize t.dropLast = front at *
  obtain ⟨others, rfl⟩ := List.head?_eq_some_iff.1 begins
  simp only [Bool.and_eq_true, Bool.not_eq_true', bne_iff_ne, Option.isNone_iff_eq_none] at first last
  obtain ⟨⟨letter, apart⟩, free⟩ := last
  have read : ∀ c later, isMark c = false →
      2 ≤ (Text.keys (x :: others ++ c :: later)).length := by
    intro c later plain
    refine two_le_length_keys (List.cons_ne_nil x others) plain fun d hd opening => ?_
    have member := (DigraphTable.mem_of_mem_readable hd).1
    rw [List.cons_append, not_opens_of_not_isDigraphLetter first member] at opening
    exact absurd opening (by simp)
  obtain ⟨c, later, joined, plain, _⟩ := exists_nfc_eq_cons_marks marked free
  rw [whole, List.append_assoc, List.singleton_append]
  refine ⟨read z rest letter, ?_⟩
  rw [Text.nfc_append, composed, joined]
  · exact read c later (plain.trans letter)
  · exact fun d hd => Option.mem_some_iff.1 hd ▸ letter
  · exact fun e _ d hd => hangulSyllable?_eq_none (Or.inl (Option.mem_some_iff.1 hd ▸ apart)) e

/-- Marks do not change as what the capital of a letter is read. -/
theorem keys_nfc_upperLetter_append {x : Char} (free : hangulLetters? x = none) {rest : Text}
    (marked : ∀ m ∈ rest, isMark m = true) (key : Text) :
    (Text.nfc (upperLetter x ++ rest)).keys = [key] ↔ (upperLetter x).keys = [key] := by
  rcases upperLetter_cases free with one | several
  · cases capital : upperLetter x with
    | nil => simp [capital, Text.isOneUnit] at one
    | cons u own =>
      rw [capital, Text.isOneUnit, Bool.and_eq_true, List.all_eq_true, Option.isNone_iff_eq_none]
        at one
      rw [List.cons_append, keys_nfc_cons_marks (List.forall_mem_append.2 ⟨one.1, marked⟩) one.2,
        keys_cons_marks one.1, base_cons_marks one.1 one.2]
  · have read := (two_le_length_keys_of_hasSecondLetter several marked).2
    have alone := (two_le_length_keys_of_hasSecondLetter several (List.forall_mem_nil _)).1
    rw [List.append_nil] at alone
    constructor
    · intro same
      rw [same, List.length_singleton] at read
      omega
    · intro same
      rw [same, List.length_singleton] at alone
      omega

/-- A letter gets its capital with its marks, whether these are composed with it or not. -/
theorem nfc_capitalize_nfc_cons {b : Char} {marks : Text} (final : decompose b = [b])
    (letter : isMark b = false) (marked : ∀ m ∈ marks, isMark m = true)
    (noIota : subscriptIota ∉ marks.nfd) :
    Text.nfc (Text.nfc (b :: marks)).capitalize = Text.nfc (Text.capitalize (b :: marks)) := by
  obtain ⟨x, rest, composed, plain, _, joined⟩ := exists_nfc_eq_letter_marks final letter marked
  have decomposed : Text.nfd (x :: rest) = b :: marks.nfd := by
    rw [← composed, Text.nfd_nfc, nfd_cons_of_final final letter]
  have free := hangulLetters?_eq_none_of_nfd decomposed (isMark_of_mem_nfd marked)
  obtain ⟨c, own, whole, plainC, ownMarked⟩ := exists_decompose_eq_letter_marks plain free
  -- The marks that have joined the letter stand before those that have not.
  have parts : Text.nfd (x :: rest) = c :: reorderMarks (own ++ rest.flatMap decompose) := by
    rw [Text.nfd, List.flatMap_cons, whole, List.cons_append]
    exact insertMark_of_starter (combiningClass_of_not_isMark plainC) _
  obtain ⟨rfl, marks'⟩ := List.cons.inj (decomposed.symm.trans parts)
  have raised : (upperLetter x).flatMap decompose = (upperLetter b).flatMap decompose ++ own := by
    by_cases several : own = []
    · have bare : IsBareLetter x := ⟨plain, by rw [whole, several, List.length_singleton]⟩
      rw [joined.resolve_right (not_not_intro bare), several, List.append_nil]
    · refine flatMap_decompose_upperLetter free whole several fun iota => noIota ?_
      rw [marks', (reorderMarks_perm _).mem_iff]
      exact List.mem_append_left _ iota
  have same : Text.nfd (upperLetter x ++ rest) = Text.nfd (upperLetter b ++ marks) := by
    rw [Text.nfd, Text.nfd, List.flatMap_append, List.flatMap_append, raised, List.append_assoc]
    exact reorderMarks_append_congr _ marks'.symm
  rw [composed, Text.capitalize, Text.capitalize, ← Text.nfc_nfd, same, Text.nfc_nfd]

/-! ## Digraphs -/

/-- Whether a code point belongs to a letter that decomposes, or to a simple letter whose capital is
    a simple letter too, and the same one but for case. -/
def isRaised (k : Char) (n : Nat) : Bool :=
  decompose (Char.ofNat n) != [Char.ofNat n] ||
    match upperLetter (Char.ofNat n) with
    | [u] => sameLetter u k && [Char.ofNat n, u].all fun c =>
        !isMark c && decompose c == [c] && c.toNat / 256 != 0x11
    | _ => false

theorem isRaised_rules : passesForLetters isRaised = true := by decide +kernel

section Digraphs

variable {d : Text × Text} (hd : d ∈ DigraphTable.rules)

include hd

theorem exists_capital {k : Char} (hk : k ∈ d.1) {b : Char} (same : sameLetter b k = true)
    (final : decompose b = [b]) :
    IsSimpleLetter b ∧ ∃ u, upperLetter b = [u] ∧ sameLetter u k = true ∧ IsSimpleLetter u := by
  have raised := check_of_sameLetter isRaised_rules hd hk same
  rw [isRaised, Char.ofNat_toNat, Bool.or_eq_true, bne_iff_ne, or_iff_right (not_not_intro final)]
    at raised
  split at raised
  · next u capital =>
    simp only [Bool.and_eq_true, List.all_cons, List.all_nil, Bool.not_eq_true', beq_iff_eq,
      bne_iff_ne, and_true] at raised
    obtain ⟨like, ⟨⟨ownLetter, _⟩, ownApart⟩, ⟨letter, single⟩, apart⟩ := raised
    exact ⟨⟨ownLetter, final, ownApart⟩, u, capital, like, letter, single, apart⟩
  · exact absurd raised (by simp)

theorem isSimpleLetter_of_opens {letters : Text} (opening : DigraphTable.opens d.1 letters = true)
    (length : letters.length = d.1.length) (final : ∀ c ∈ letters, decompose c = [c]) :
    ∀ c ∈ letters, IsSimpleLetter c := by
  intro c hc
  rw [← List.take_of_length_le (Nat.le_of_eq length)] at hc
  obtain ⟨k, hk, same⟩ := DigraphTable.exists_sameLetter_of_opens opening c hc
  exact (exists_capital hd hk same (final c (List.mem_of_mem_take hc))).1

/-- A digraph with a capital is the same digraph. -/
theorem exists_capitalize_of_opens {b : Char} {others : Text}
    (opening : DigraphTable.opens d.1 (b :: others) = true) (final : decompose b = [b]) :
    ∃ u, upperLetter b = [u] ∧ DigraphTable.opens d.1 (u :: others) = true ∧ IsSimpleLetter u := by
  obtain ⟨k, spelling, split⟩ := List.exists_cons_of_ne_nil (DigraphTable.ne_nil_rules d hd)
  rw [split, DigraphTable.opens, Bool.and_eq_true] at opening
  obtain ⟨_, u, capital, like, simple⟩ := exists_capital hd (by simp [split]) opening.1 final
  exact ⟨u, capital, by rw [split, DigraphTable.opens, like, opening.2]; rfl, simple⟩

/-- A digraph with marks is read as its stand-in exactly if no mark joins its last letter. -/
theorem keys_nfc_of_opens {front marks : Text} {e : Char}
    (opening : DigraphTable.opens d.1 (front ++ [e]) = true)
    (length : (front ++ [e]).length = d.1.length) (simple : ∀ c ∈ front ++ [e], IsSimpleLetter c)
    (marked : ∀ m ∈ marks, isMark m = true) :
    (Text.nfc (front ++ e :: marks)).keys = [d.2] ↔ (Text.nfc (e :: marks)).head? = some e := by
  have filled : front ≠ [] := by
    rintro rfl
    have several := DigraphTable.two_le_length_rules d hd
    rw [← length] at several
    exact absurd several (by simp)
  have last := simple e (by simp)
  have front_simple : ∀ c ∈ front, IsSimpleLetter c :=
    fun c hc => simple c (List.mem_append_left [e] hc)
  have begins : ∀ c ∈ (e :: marks).head?, isMark c = false ∧ c.toNat / 256 ≠ 0x11 :=
    fun c hc => Option.mem_some_iff.1 hc ▸ ⟨last.letter, last.apart⟩
  obtain ⟨c, rest, composed, plain, restMarked, joined⟩ :=
    exists_nfc_eq_letter_marks last.final last.letter marked
  rw [nfc_simpleLetters_append front_simple begins, composed, List.head?_cons, Option.some.injEq]
  constructor
  · intro read
    refine joined.resolve_right fun foreign => ?_
    -- The composed letter is no letter of the digraph, and is read as another phoneme.
    have several : 2 ≤ (front ++ c :: rest).keys.length :=
      two_le_length_keys filled plain fun d hd opening =>
        length_le_of_opens_foreign (DigraphTable.mem_of_mem_readable hd).1 foreign opening
    rw [read, List.length_singleton] at several
    omega
  · rintro rfl
    rw [List.append_cons]
    exact keys_of_opens hd opening length restMarked

end Digraphs

-- A line below joins the `h` of a `th`, which is then no digraph; an acute does not.
example : (Text.nfc ['t', 'h', '\u0331']).keys = [['t'], ['h']] ∧
    (Text.nfc ['t', 'h', '\u0301']).keys = [['θ']] := by
  decide +kernel

end SoundLaw
