/-
  SoundLaw.Proofs.Text.Concatenation

  The canonical forms of texts that are put together. Where the second text begins with a letter,
  decomposing does not reach over the junction (`nfd_append`), and composing does only if the two
  meet in a Hangul syllable (`nfc_append`). Conversely, a composed text that is cut before a letter
  leaves composed parts (`nfc_parts`), and composing a part of a text beforehand changes nothing
  (`nfc_append_nfc_append`).

  That the parts of a composed text are composed is seen by counting. Composing keeps the number of
  characters of a full decomposition, so two texts that begin another one and decompose to equally
  many characters are the same.
-/
import SoundLaw.Proofs.Text.LetterTables
import SoundLaw.Proofs.Text.NormalForm

namespace SoundLaw

/-! ## Canonical order -/

theorem insertMark_of_starter {d : Char} (starter : combiningClass d = 0) (t : Text) :
    insertMark d t = d :: t := by
  cases t with
  | nil => rfl
  | cons e t =>
    rw [insertMark, if_neg]
    omega

/-- No mark moves beyond a starter. -/
theorem insertMark_append (c : Char) {d : Char} (starter : combiningClass d = 0) (x y : Text) :
    insertMark c (x ++ d :: y) = insertMark c x ++ d :: y := by
  induction x with
  | nil =>
    show insertMark c (d :: y) = c :: d :: y
    rw [insertMark, if_neg fun passes => passes.1 starter]
  | cons e x ih =>
    rw [List.cons_append, insertMark, insertMark]
    split
    · rw [ih, List.cons_append]
    · rfl

theorem reorderMarks_append_starter {d : Char} (starter : combiningClass d = 0) (x y : Text) :
    reorderMarks (x ++ d :: y) = reorderMarks x ++ reorderMarks (d :: y) := by
  have front : reorderMarks (d :: y) = d :: reorderMarks y := insertMark_of_starter starter _
  rw [reorderMarks_append, front]
  induction x with
  | nil => rfl
  | cons c x ih =>
    rw [List.foldr_cons, ih, insertMark_append c starter]
    rfl

theorem foldr_insertMark_insertMark (c : Char) (x t : Text) :
    (insertMark c x).foldr insertMark t = insertMark c (x.foldr insertMark t) := by
  induction x with
  | nil => rfl
  | cons d x ih =>
    rw [insertMark]
    split
    · next passes =>
      rw [List.foldr_cons, ih, List.foldr_cons,
        insertMark_comm passes.1 (by omega) (by omega)]
    · rfl

/-- A part of a text can be brought into canonical order beforehand. -/
theorem reorderMarks_reorderMarks_append (x y : Text) :
    reorderMarks (reorderMarks x ++ y) = reorderMarks (x ++ y) := by
  rw [reorderMarks_append, reorderMarks_append]
  induction x with
  | nil => rfl
  | cons c x ih =>
    show (insertMark c (reorderMarks x)).foldr insertMark (reorderMarks y) = _
    rw [foldr_insertMark_insertMark, ih, List.foldr_cons]

/-! ## The decomposed form -/

theorem Text.nfd_append {a b : Text} (letter : ∀ c ∈ b.head?, isMark c = false) :
    (a ++ b).nfd = a.nfd ++ b.nfd := by
  cases b with
  | nil => simp
  | cons c b =>
    obtain ⟨d, rest, whole, first, _⟩ := exists_decompose_eq_cons (letter c rfl)
    rw [Text.nfd, Text.nfd, Text.nfd, List.flatMap_append, List.flatMap_cons, whole,
      List.cons_append, reorderMarks_append_starter (combiningClass_of_not_isMark first)]

/-- A text that begins with a letter decomposes to one that does. If that is another letter, it
    joins nothing before it. -/
theorem Text.exists_nfd_eq_cons {c : Char} (letter : isMark c = false) (t : Text) :
    ∃ d rest, Text.nfd (c :: t) = d :: rest ∧ isMark d = false ∧
      (d = c ∨ ∀ e, hangulSyllable? e d = none) := by
  obtain ⟨d, rest, whole, first, joins⟩ := exists_decompose_eq_cons letter
  refine ⟨d, reorderMarks (rest ++ t.flatMap decompose), ?_, first, joins⟩
  rw [Text.nfd, List.flatMap_cons, whole, List.cons_append]
  exact insertMark_of_starter (combiningClass_of_not_isMark first) _

/-! ## The composed form -/

/-- A starter either stays out of what is composed before it, or it joins the last character of
    that. -/
theorem composeOnto_append_cases (starter : Char) (kept x : Text) {d : Char}
    (isStarter : combiningClass d = 0) (y : Text) :
    composeOnto starter kept (x ++ d :: y) = composeOnto starter kept x ++ composeOnto d [] y ∨
      ∃ front e joined, composeOnto starter kept x = front ++ [e] ∧ composite? e d = some joined ∧
        composeOnto starter kept (x ++ d :: y) = front ++ composeOnto joined [] y := by
  -- Along `x`, which is composed alike whatever follows it; only its end is of interest.
  fun_induction composeOnto starter kept x with
  | case1 starter kept =>
    rw [List.nil_append, composeOnto]
    cases kept with
    | nil =>
      -- Nothing stands between the last starter and `d`.
      cases joins : composite? starter d with
      | none =>
        left
        simp [reachesStarter, isStarter]
      | some joined =>
        right
        refine ⟨[], starter, joined, rfl, joins, ?_⟩
        simp [reachesStarter]
    | cons k kept =>
      -- No mark has a lower class than a starter, so `k` keeps `d` away.
      left
      simp [reachesStarter, isStarter]
  | case2 starter kept c t joined found ih =>
    rw [List.cons_append, composeOnto, found]
    exact ih
  | case3 starter kept c t blocked startsAgain ih =>
    rw [List.cons_append, composeOnto, blocked]
    simp only [if_pos startsAgain]
    rcases ih with apart | ⟨front, e, joined, last, joins, whole⟩
    · left
      rw [apart, List.append_assoc]
    · right
      refine ⟨starter :: kept.reverse ++ front, e, joined, ?_, joins, ?_⟩
      · rw [last, List.append_assoc]
      · rw [whole, List.append_assoc]
  | case4 starter kept c t blocked mark ih =>
    rw [List.cons_append, composeOnto, blocked]
    simp only [if_neg mark]
    exact ih

theorem composeMarks_append_cases (x : Text) {d : Char} (isStarter : combiningClass d = 0)
    (y : Text) :
    composeMarks (x ++ d :: y) = composeMarks x ++ composeMarks (d :: y) ∨
      ∃ front e joined, composeMarks x = front ++ [e] ∧ composite? e d = some joined ∧
        composeMarks (x ++ d :: y) = front ++ composeOnto joined [] y := by
  cases x with
  | nil => exact Or.inl rfl
  | cons c x => exact composeOnto_append_cases c [] x isStarter y

/-- Texts that are put together are composed apart, unless they meet in a Hangul syllable. -/
theorem Text.nfc_append {a b : Text} (letter : ∀ c ∈ b.head?, isMark c = false)
    (apart : ∀ e ∈ a.nfc.getLast?, ∀ c ∈ b.head?, hangulSyllable? e c = none) :
    (a ++ b).nfc = a.nfc ++ b.nfc := by
  cases b with
  | nil => simp
  | cons c b =>
    obtain ⟨d, y, first, plain, joins⟩ := Text.exists_nfd_eq_cons (letter c rfl) b
    have starter := combiningClass_of_not_isMark plain
    rw [Text.nfc, Text.nfc, Text.nfc, Text.nfd_append letter, first]
    rcases composeMarks_append_cases a.nfd starter y with split | ⟨front, e, joined, last, meets, _⟩
    · exact split
    · -- A letter joins by a Hangul syllable only, and one that is decomposed does not join at all.
      have final : e ∈ a.nfc.getLast? := by simp [Text.nfc, last]
      rw [composite?_of_not_isMark plain] at meets
      rcases joins with rfl | never
      · rw [apart e final d rfl] at meets
        exact absurd meets (by simp)
      · rw [never e] at meets
        exact absurd meets (by simp)

/-- A part of a text can be composed beforehand. -/
theorem Text.nfc_append_nfc_append (a b c : Text) : (a ++ b.nfc ++ c).nfc = (a ++ b ++ c).nfc := by
  have middle : reorderMarks ((b.nfc ++ c).flatMap decompose) =
      reorderMarks ((b ++ c).flatMap decompose) := by
    have same : reorderMarks (b.nfc.flatMap decompose) = reorderMarks (b.flatMap decompose) :=
      b.nfd_nfc
    rw [List.flatMap_append, List.flatMap_append, ← reorderMarks_reorderMarks_append, same,
      reorderMarks_reorderMarks_append]
  have whole : (a ++ (b.nfc ++ c)).nfd = (a ++ (b ++ c)).nfd :=
    calc reorderMarks ((a ++ (b.nfc ++ c)).flatMap decompose)
        = reorderMarks (a.flatMap decompose ++ (b.nfc ++ c).flatMap decompose) := by
          rw [List.flatMap_append]
      _ = reorderMarks (a.flatMap decompose ++ (b ++ c).flatMap decompose) :=
          reorderMarks_append_congr _ middle
      _ = reorderMarks ((a ++ (b ++ c)).flatMap decompose) := by rw [← List.flatMap_append]
  rw [List.append_assoc, List.append_assoc, Text.nfc, whole, ← Text.nfc]

/-! ## Parts of a composed text -/

/-- The number of characters of the full decomposition of a text. -/
def Text.fullLength (t : Text) : Nat := (t.flatMap decompose).length

theorem Text.fullLength_append (a b : Text) : (a ++ b).fullLength = a.fullLength + b.fullLength := by
  rw [Text.fullLength, List.flatMap_append, List.length_append]
  rfl

theorem Text.fullLength_cons (c : Char) (t : Text) :
    Text.fullLength (c :: t) = (decompose c).length + t.fullLength := by
  rw [Text.fullLength, List.flatMap_cons, List.length_append]
  rfl

theorem length_decompose_pos (c : Char) : 0 < (decompose c).length :=
  List.length_pos_iff.2 (decompose_ne_nil c)

theorem Text.length_nfd (t : Text) : t.nfd.length = t.fullLength :=
  (reorderMarks_perm _).length_eq

theorem Text.fullLength_nfc (t : Text) : t.nfc.fullLength = t.fullLength := by
  rw [← Text.length_nfd, Text.nfd_nfc, Text.length_nfd]

/-- Two parts that begin the same text and decompose to equally many characters are the same. -/
theorem Text.eq_of_append_eq_append {a b c d : Text} (whole : a ++ b = c ++ d)
    (same : a.fullLength = c.fullLength) : a = c ∧ b = d := by
  have nothing : ∀ u : Text, u.fullLength = 0 → u = [] := by
    intro u empty
    cases u with
    | nil => rfl
    | cons e u =>
      have := length_decompose_pos e
      rw [Text.fullLength_cons] at empty
      omega
  rcases List.append_eq_append_iff.1 whole with ⟨u, rfl, rfl⟩ | ⟨u, rfl, rfl⟩
  · rw [Text.fullLength_append] at same
    rw [nothing u (by omega)]
    simp
  · rw [Text.fullLength_append] at same
    rw [nothing u (by omega)]
    simp

/-- What is composed onto a starter decomposes to no fewer characters than that. -/
theorem exists_composeOnto_eq_cons (starter : Char) (kept t : Text) :
    ∃ first rest, composeOnto starter kept t = first :: rest ∧
      (decompose starter).length ≤ (decompose first).length := by
  fun_induction composeOnto starter kept t with
  | case1 starter kept => exact ⟨starter, _, rfl, Nat.le_refl _⟩
  | case2 starter kept c t joined found ih =>
    obtain ⟨first, rest, whole, longer⟩ := ih
    refine ⟨first, rest, whole, Nat.le_trans ?_ longer⟩
    split at found
    · rw [decompose_of_composite? found, List.length_append]
      omega
    · exact absurd found (by simp)
  | case3 starter kept c t blocked startsAgain ih => exact ⟨starter, _, rfl, Nat.le_refl _⟩
  | case4 starter kept c t blocked mark ih => exact ih

/-- If a composed text is cut before a letter, both parts are composed. -/
theorem Text.nfc_parts {a b : Text} (letter : ∀ c ∈ b.head?, isMark c = false)
    (composed : (a ++ b).nfc = a ++ b) : a.nfc = a ∧ b.nfc = b := by
  cases b with
  | nil =>
    rw [List.append_nil] at composed
    exact ⟨composed, rfl⟩
  | cons c b =>
    obtain ⟨d, y, first, plain, _⟩ := Text.exists_nfd_eq_cons (letter c rfl) b
    rw [Text.nfc, Text.nfd_append letter, first] at composed
    rcases composeMarks_append_cases a.nfd (combiningClass_of_not_isMark plain) y with
      split | ⟨front, e, joined, last, joins, whole⟩
    · rw [split, ← first] at composed
      exact Text.eq_of_append_eq_append composed a.fullLength_nfc
    · -- Otherwise a character that belongs to both parts would end the first one.
      obtain ⟨f, rest, starts, full⟩ := exists_composeOnto_eq_cons joined [] y
      have lengths : a.fullLength = front.fullLength + (decompose e).length := by
        rw [← a.fullLength_nfc, Text.nfc, last, Text.fullLength_append, Text.fullLength_cons]
        rfl
      have more := length_decompose_pos d
      have least := length_decompose_pos e
      rw [decompose_of_composite? joins, List.length_append] at full
      rw [whole, starts] at composed
      rcases List.append_eq_append_iff.1 composed with ⟨u, longer, tail⟩ | ⟨u, shorter, _⟩
      · cases u with
        | nil =>
          rw [longer, List.append_nil] at lengths
          omega
        | cons g u =>
          obtain ⟨rfl, _⟩ := List.cons.inj tail
          rw [longer, Text.fullLength_append, Text.fullLength_cons] at lengths
          omega
      · rw [shorter, Text.fullLength_append] at lengths
        omega

end SoundLaw
