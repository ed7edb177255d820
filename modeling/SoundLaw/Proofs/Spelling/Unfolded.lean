/-
  SoundLaw.Proofs.Spelling.Unfolded

  What rule notation does not fold. A digraph is two or more letters next to each other, so a text
  is folded to itself if no two of its neighbours are letters of digraphs (`prepared_eq`), and
  any other sign is in a folded text where it was before (`filter_fold_rules`).
-/
import SoundLaw.Notation.Form
import SoundLaw.Proofs.Notation.Phonemes
import SoundLaw.Proofs.Phoneme.CanonicalForms

namespace SoundLaw

/-! ## Letters of digraphs -/

/-- Whether a character is read as a letter of some digraph of rule notation. -/
def isDigraphLetter (c : Char) : Bool := DigraphTable.rules.any fun d => d.1.any (sameLetter c)

/-- A letter of a digraph has no diacritic. -/
theorem isBareLetter_of_isDigraphLetter {c : Char} (h : isDigraphLetter c = true) :
    IsBareLetter c := by
  obtain ⟨d, hd, inside⟩ := List.any_eq_true.1 h
  obtain ⟨k, hk, same⟩ := List.any_eq_true.1 inside
  exact isBareLetter_of_sameLetter hd hk same

theorem isDigraphLetter_eq_false_of_isMark {m : Char} (mark : isMark m = true) :
    isDigraphLetter m = false := by
  rw [← Bool.not_eq_true]
  exact fun letter => not_isBareLetter_of_isMark mark (isBareLetter_of_isDigraphLetter letter)

/-- What is read as a digraph has several letters, and they are all letters of digraphs. -/
theorem isDigraphLetter_of_reach {t : Text} {n : Nat}
    (reached : DigraphTable.rules.reach t = some n) :
    2 ≤ n ∧ ∀ c ∈ t.take n, isDigraphLetter c = true := by
  obtain ⟨⟨d, hd, opening, rfl⟩, _⟩ := DigraphTable.reach_eq_some_iff.1 reached
  have member := (DigraphTable.mem_of_mem_readable hd).1
  refine ⟨DigraphTable.two_le_length_rules d member, fun c hc => ?_⟩
  obtain ⟨k, hk, same⟩ := DigraphTable.exists_sameLetter_of_opens opening c hc
  exact List.any_eq_true.2 ⟨d, member, List.any_eq_true.2 ⟨k, hk, same⟩⟩

/-! ## Signs -/

section Signs

variable {p : Char → Bool} (foreign : ∀ c, p c = true → isDigraphLetter c = false)
  (special : ∀ c, p c = true → isOrdinary c = false)

include foreign special

/-- The head of a grapheme is folded to a text with the same signs. -/
theorem filter_phoneme_firstGrapheme (c : Char) (t : Text) :
    ((firstGrapheme DigraphTable.rules c t).phoneme DigraphTable.rules).filter p =
      (firstGrapheme DigraphTable.rules c t).head.filter p := by
  rw [Grapheme.phoneme]
  cases reached : DigraphTable.rules.reach (c :: t) with
  | none => simp [(firstGrapheme_of_reach_eq_none reached).1]
  | some n =>
    -- Neither the letters of a digraph nor its stand-in are signs.
    obtain ⟨digraph, head⟩ := firstGrapheme_of_reach reached
    obtain ⟨standIn, found⟩ :=
      DigraphTable.exists_standIn?_of_reach DigraphTable.isPlain_rules reached
    obtain ⟨s, rfl, _, ordinary, _⟩ := standIn_rules found
    have none : p s = false := by
      rw [← Bool.not_eq_true]
      intro sign
      rw [special s sign] at ordinary
      exact absurd ordinary (by simp)
    have noLetters : ((c :: t).take n).filter p = [] := by
      rw [List.filter_eq_nil_iff]
      intro d hd sign
      exact absurd ((isDigraphLetter_of_reach reached).2 d hd) (by simp [foreign d sign])
    rw [if_pos digraph, head, found, noLetters]
    simp [none]

/-- Folding moves, adds and drops no sign that is neither a letter of a digraph nor a letter that a
    digraph is folded to. -/
theorem filter_fold_rules (t : Text) :
    (t.fold DigraphTable.rules).filter p = t.filter p := by
  rw [fold_eq_flatMap_phoneme (by decide)]
  induction length : t.length using Nat.strong_induction_on generalizing t with
  | _ n ih =>
    cases t with
    | nil => simp
    | cons c t =>
      have shorter : (t.drop (DigraphTable.rules.extent (c :: t))).length < n := by
        rw [List.length_drop, ← length, List.length_cons]
        omega
      have split : (firstGrapheme DigraphTable.rules c t).head ++
          t.drop (DigraphTable.rules.extent (c :: t)) = c :: t := by
        rw [firstGrapheme, List.cons_append, List.take_append_drop]
      have later := ih _ shorter _ rfl
      rw [graphemes_without_trails_cons, List.flatMap_cons, List.filter_append, later]
      conv_rhs => rw [← split, List.filter_append]
      rw [← filter_phoneme_firstGrapheme foreign special]
      rfl

end Signs

/-! ## Letters that stand apart -/

/-- No two neighbours of a text are both letters of digraphs. -/
def Text.StandsApart (t : Text) : Prop :=
  t.IsChain fun a b => isDigraphLetter a = true → isDigraphLetter b = false

/-- A text in which no digraph is read anywhere is folded to itself. -/
theorem fold_rules_of_unread {t : Text}
    (unread : ∀ before rest, t = before ++ rest → DigraphTable.rules.reach rest = none) :
    t.fold DigraphTable.rules = t := by
  rw [fold_eq_flatMap_phoneme (by decide)]
  induction t with
  | nil => simp
  | cons c t ih =>
    have here := unread [] (c :: t) rfl
    have later := ih fun before rest split => unread (c :: before) rest (by rw [split]; rfl)
    have extent : DigraphTable.rules.extent (c :: t) = 0 := by simp [DigraphTable.extent, here]
    rw [graphemes_without_trails_cons, extent, List.drop_zero, List.flatMap_cons, later]
    simp [Grapheme.phoneme, firstGrapheme, extent, here]

/-- Composing does not bring two letters of digraphs together. -/
theorem Text.StandsApart.reach_eq_none {t : Text} (apart : t.nfd.StandsApart) {before rest : Text}
    (split : t.nfc = before ++ rest) : DigraphTable.rules.reach rest = none := by
  cases reached : DigraphTable.rules.reach rest with
  | none => rfl
  | some n =>
    obtain ⟨several, letters⟩ := isDigraphLetter_of_reach reached
    obtain ⟨⟨d, _, opening, length⟩, _⟩ := DigraphTable.reach_eq_some_iff.1 reached
    have inside := DigraphTable.length_le_of_opens opening
    -- The first two letters of the digraph are neighbours in the decomposed text too.
    have two : 2 ≤ rest.length := by omega
    obtain ⟨a, b, after, rfl⟩ : ∃ a b, ∃ u : Text, rest = a :: b :: u := by
      rcases rest with _ | ⟨a, _ | ⟨b, u⟩⟩
      · simp at two
      · simp at two
      · exact ⟨a, b, u, rfl⟩
    have pair : ∀ c ∈ [a, b], isDigraphLetter c = true := by
      intro c hc
      refine letters c (List.take_subset_take_left (a :: b :: after) several ?_)
      exact hc
    have bare : ∀ c ∈ [a, b], IsBareLetter c :=
      fun c hc => isBareLetter_of_isDigraphLetter (pair c hc)
    have final : ∀ c ∈ [a, b], decompose c = [c] := by
      intro c hc
      have composed : c ∈ t.nfc := by
        rw [split]
        exact List.mem_append_right before (List.mem_append_left after hc)
      exact decompose_eq_self_of_mem_nfc composed (bare c hc).2
    have whole : t.nfd = before.nfd ++ ([a, b] ++ after.nfd) := by
      have letter : ∀ c ∈ (a :: b :: after).head?, isMark c = false := by
        simpa using (bare a (by simp)).1
      rw [← Text.nfd_nfc, split, Text.nfd_append letter]
      congr 1
      show Text.nfd ([a, b] ++ after) = _
      rw [nfd_bareLetters_append bare, flatMap_decompose_eq_self final]
    have meets := apart
    rw [whole, Text.StandsApart, List.isChain_append] at meets
    have neighbours := (List.isChain_cons_cons.1 meets.2.1).1 (pair a (by simp))
    rw [pair b (by simp)] at neighbours
    exact absurd neighbours (by simp)

/-- A text in which the letters of digraphs stand apart is prepared by decomposing it. -/
theorem Text.StandsApart.prepared_eq {t : Text} (apart : t.nfd.StandsApart) :
    t.prepared = t.nfd := by
  rw [Text.prepared, fold_rules_of_unread fun _ _ split => apart.reach_eq_none split, Text.nfd_nfc]

end SoundLaw
