/-
  SoundLaw.Proofs.Notation.Dividers

  Preparing a segment part by part. Two texts that are put together are prepared as they are apart
  if no digraph and no composed character goes over the junction (`Text.prepared_append`). Letters
  that neither stand in a digraph nor decompose keep the two sides apart, and stay as they are, with
  the marks after them (`prepared_append_dividers`).
-/
import SoundLaw.Proofs.Spelling.Unfolded

namespace SoundLaw

/-! ## Folding over a junction -/

/-- No digraph goes on from a grapheme into a text if the grapheme has a character that is in no
    digraph, or the text begins with one. -/
theorem endsBefore_of_divided {g : Grapheme} {u : Text}
    (divided : (∃ c ∈ g.text, isDigraphLetter c = false) ∨
      ∀ c ∈ u.head?, isDigraphLetter c = false) : g.EndsBefore DigraphTable.rules u := by
  intro d hd opening
  have member := (DigraphTable.mem_of_mem_readable hd).1
  by_contra longer
  rw [Nat.not_le] at longer
  have letters : ∀ c ∈ (g.text ++ u).take d.1.length, isDigraphLetter c = true := by
    intro c hc
    obtain ⟨k, hk, same⟩ := DigraphTable.exists_sameLetter_of_opens opening c hc
    exact List.any_eq_true.2 ⟨d, member, List.any_eq_true.2 ⟨k, hk, same⟩⟩
  rw [List.take_append, List.take_of_length_le (Nat.le_of_lt longer)] at letters
  rcases divided with ⟨c, hc, foreign⟩ | foreign
  · have letter := letters c (List.mem_append_left _ hc)
    rw [foreign] at letter
    exact absurd letter (by simp)
  · -- The digraph takes the first character of the text, which there is.
    have inside := DigraphTable.length_le_of_opens opening
    rw [List.length_append] at inside
    obtain ⟨n, rest⟩ := Nat.exists_eq_succ_of_ne_zero (Nat.sub_ne_zero_of_lt longer)
    cases u with
    | nil =>
      rw [List.length_nil] at inside
      omega
    | cons c u =>
      rw [rest, List.take_succ_cons] at letters
      have letter := letters c (List.mem_append_right _ List.mem_cons_self)
      rw [foreign c rfl] at letter
      exact absurd letter (by simp)

/-- Texts with something that is in no digraph between them are folded apart. -/
theorem fold_rules_append_of_divided {s u : Text} (letter : ∀ c ∈ u.head?, isMark c = false)
    (divided : (∀ c ∈ s, isDigraphLetter c = false) ∨ ∀ c ∈ u.head?, isDigraphLetter c = false) :
    Text.fold DigraphTable.rules (s ++ u) =
      s.fold DigraphTable.rules ++ u.fold DigraphTable.rules := by
  have folded (t : Text) := fold_eq_flatMap_folded DigraphTable.ne_nil_rules (leavesMarks_rules t)
  rw [folded, folded, folded, ← List.flatMap_append]
  refine congrArg _ (graphemes_append DigraphTable.hasBeginnings_rules letter fun g hg => ?_)
  refine endsBefore_of_divided (divided.imp_left fun foreign => ?_)
  have member := List.mem_of_mem_getLast? hg
  obtain ⟨c, _, head⟩ := List.exists_cons_of_ne_nil (head_ne_nil_of_mem_graphemes member)
  have inside : c ∈ g.text := List.mem_append_left _ (by simp [head])
  refine ⟨c, inside, foreign c ?_⟩
  rw [← flatMap_text_graphemes DigraphTable.rules isMark s]
  exact List.mem_flatMap.2 ⟨g, member, inside⟩

/-- A text that begins with a letter is folded to one that does. -/
theorem isMark_head?_fold_rules {t : Text} (letter : ∀ c ∈ t.head?, isMark c = false) :
    ∀ c ∈ (t.fold DigraphTable.rules).head?, isMark c = false := by
  rw [fold_eq_flatMap_phoneme DigraphTable.ne_nil_rules]
  cases t with
  | nil => simp
  | cons c t =>
    rw [graphemes_without_trails_cons, List.flatMap_cons]
    cases reached : DigraphTable.rules.reach (c :: t) with
    | none =>
      have single : Grapheme.phoneme DigraphTable.rules
          { firstGrapheme DigraphTable.rules c t with trail := [] } = [c] := by
        simp [Grapheme.phoneme, firstGrapheme, DigraphTable.extent, reached]
      rw [single]
      exact letter
    | some n =>
      obtain ⟨standIn, found⟩ :=
        DigraphTable.exists_standIn?_of_reach DigraphTable.isPlain_rules reached
      rw [← DigraphTable.cons_take_extent reached] at found
      obtain ⟨s, rfl, plain, _⟩ := standIn_rules found
      have single : Grapheme.phoneme DigraphTable.rules
          { firstGrapheme DigraphTable.rules c t with trail := [] } = [s] := by
        simp [Grapheme.phoneme, firstGrapheme, reached, found]
      rw [single]
      exact fun d hd => Option.mem_some_iff.1 hd ▸ plain

/-! ## Preparing over a junction -/

theorem Text.prepared_append {a b : Text} (letter : ∀ c ∈ b.head?, isMark c = false)
    (apart : ∀ e ∈ a.nfc.getLast?, ∀ c ∈ b.head?, hangulSyllable? e c = none)
    (divided : (∀ c ∈ a.nfc, isDigraphLetter c = false) ∨
      ∀ c ∈ b.nfc.head?, isDigraphLetter c = false) :
    (a ++ b).prepared = a.prepared ++ b.prepared := by
  have composed := isMark_head?_nfc letter
  rw [Text.prepared, Text.nfc_append letter apart, fold_rules_append_of_divided composed divided,
    Text.nfd_append (isMark_head?_fold_rules composed)]
  rfl

/-! ## Dividers -/

/-- A letter that is in no digraph and joins no other letter. -/
structure IsSeparate (c : Char) : Prop extends IsSimpleLetter c where
  foreign : isDigraphLetter c = false

/-- What joins the character before it in a Hangul syllable finds a leading consonant there. -/
theorem exists_lead_of_hangulSyllable? {first second joined : Char}
    (h : hangulSyllable? first second = some joined) :
    ∃ d ∈ decompose first, 0x1100 ≤ d.toNat ∧ d.toNat < 0x1113 := by
  unfold hangulSyllable? at h
  dsimp only at h
  split at h
  · next bounds =>
    simp only [Bool.and_eq_true, decide_eq_true_eq] at bounds
    have final : decompose first = [first] := decompose_eq_self_of_hangulPage (by omega)
    exact ⟨first, by simp [final], by omega, by omega⟩
  · split at h
    · next bounds =>
      simp only [Bool.and_eq_true, decide_eq_true_eq] at bounds
      have syllable : (hangulLetters? first).isSome = true := by
        rw [hangulLetters?, if_pos (by simp only [Bool.and_eq_true, decide_eq_true_eq]; omega)]
        dsimp only
        split <;> rfl
      obtain ⟨letters, found⟩ := Option.isSome_iff_exists.1 syllable
      obtain ⟨d, rest, rfl, low, high⟩ := exists_hangulLetters?_eq_cons found
      exact ⟨d, by simp [decompose, found], low, high⟩
    · exact absurd h (by simp)

section

variable {d : Char} {marks : Text} (separate : IsSeparate d)
  (marked : ∀ m ∈ marks, isMark m = true)

include separate marked

/-- A separate letter with marks joins nothing after it. -/
theorem hangulSyllable?_of_mem_nfc {e : Char} (he : e ∈ Text.nfc (d :: marks)) (c : Char) :
    hangulSyllable? e c = none := by
  cases joins : hangulSyllable? e c with
  | none => rfl
  | some joined =>
    obtain ⟨lead, member, low, high⟩ := exists_lead_of_hangulSyllable? joins
    have inside : lead ∈ Text.nfd (d :: marks) := by
      rw [← Text.nfd_nfc]
      exact mem_nfd.2 ⟨e, he, member⟩
    rw [nfd_cons_of_final separate.final separate.letter] at inside
    rcases List.mem_cons.1 inside with rfl | inside
    · have other := separate.apart
      omega
    · -- No leading consonant is a mark.
      have letter : isMark lead = false := by
        apply not_isMark_of_isUnmarkedCode
        simp only [isUnmarkedCode, Bool.or_eq_true, Bool.and_eq_true, Nat.ble_eq, Nat.blt_eq]
        omega
      rw [isMark_of_mem_nfd marked lead inside] at letter
      exact absurd letter (by simp)

/-- Nothing in a separate letter with marks is in a digraph. -/
theorem isDigraphLetter_of_mem_nfc :
    ∀ c ∈ Text.nfc (d :: marks), isDigraphLetter c = false := by
  obtain ⟨c, rest, whole, _, restMarked, same⟩ :=
    exists_nfc_eq_letter_marks separate.final separate.letter marked
  rw [whole]
  refine List.forall_mem_cons.2 ⟨?_, fun m hm => ?_⟩
  · rcases same with rfl | other
    · exact separate.foreign
    · rw [← Bool.not_eq_true]
      exact fun letter => other (isBareLetter_of_isDigraphLetter letter)
  · exact isDigraphLetter_eq_false_of_isMark (restMarked m hm)

/-- A separate letter with marks is decomposed when it is prepared. -/
theorem prepared_separate : Text.prepared (d :: marks) = d :: marks.nfd := by
  have whole := nfd_cons_of_final separate.final separate.letter marks
  have foreign : ∀ c ∈ d :: marks.nfd, isDigraphLetter c = false :=
    List.forall_mem_cons.2 ⟨separate.foreign, fun m hm =>
      isDigraphLetter_eq_false_of_isMark (isMark_of_mem_nfd marked m hm)⟩
  have apart : (Text.nfd (d :: marks)).StandsApart := by
    have pairs : (d :: marks.nfd).Pairwise fun a b =>
        isDigraphLetter a = true → isDigraphLetter b = false :=
      List.pairwise_of_forall_mem_list fun _ _ c hc _ => foreign c hc
    rw [whole]
    exact pairs.isChain
  rw [apart.prepared_eq, whole]

/-- What comes before and after a separate letter with its marks is prepared by itself. -/
theorem prepared_append_separate (a : Text) {b : Text} (letter : ∀ c ∈ b.head?, isMark c = false) :
    Text.prepared (a ++ d :: marks ++ b) = a.prepared ++ (d :: marks.nfd) ++ b.prepared := by
  have ends : ∀ e ∈ (Text.nfc (d :: marks)).getLast?, ∀ c ∈ b.head?, hangulSyllable? e c = none :=
    fun e he c _ => hangulSyllable?_of_mem_nfc separate marked (List.mem_of_mem_getLast? he) c
  have begins : ∀ c ∈ (Text.nfc (d :: marks ++ b)).head?, isDigraphLetter c = false := by
    intro c hc
    rw [Text.nfc_append letter ends, List.head?_append] at hc
    have filled : Text.nfc (d :: marks) ≠ [] := Text.nfc_ne_nil (List.cons_ne_nil d marks)
    obtain ⟨e, rest, whole⟩ := List.exists_cons_of_ne_nil filled
    rw [whole, List.head?_cons, Option.some_or, Option.mem_some_iff] at hc
    exact isDigraphLetter_of_mem_nfc separate marked c (by simp [whole, hc])
  rw [List.append_assoc, Text.prepared_append _ _ (Or.inr begins),
    Text.prepared_append letter ends (Or.inl (isDigraphLetter_of_mem_nfc separate marked)),
    prepared_separate separate marked, List.append_assoc]
  · exact fun c hc => Option.mem_some_iff.1 hc ▸ separate.letter
  · exact fun e _ c hc =>
      hangulSyllable?_eq_none (Or.inl (Option.mem_some_iff.1 hc ▸ separate.apart)) e

end

@[simp] theorem Text.prepared_nil : Text.prepared [] = [] := by
  rw [Text.prepared, Text.nfc_nil, fold_nil DigraphTable.ne_nil_rules, Text.nfd_nil]

/-- Several separate letters stay as they are, with the marks after the last one. -/
theorem prepared_append_dividers {letters marks b : Text} (filled : letters ≠ [])
    (separate : ∀ c ∈ letters, IsSeparate c) (marked : ∀ m ∈ marks, isMark m = true) (a : Text)
    (letter : ∀ c ∈ b.head?, isMark c = false) :
    Text.prepared (a ++ letters ++ marks ++ b) =
      a.prepared ++ letters ++ marks.nfd ++ b.prepared := by
  induction letters generalizing a with
  | nil => exact absurd rfl filled
  | cons d letters ih =>
    obtain ⟨here, later⟩ := List.forall_mem_cons.1 separate
    cases letters with
    | nil =>
      have whole := prepared_append_separate here marked a letter
      simpa using whole
    | cons e letters =>
      -- Between two letters there are no marks.
      have begins : ∀ c ∈ (e :: letters ++ marks ++ b).head?, isMark c = false := by
        simpa using (later e List.mem_cons_self).letter
      have first := prepared_append_separate here (List.forall_mem_nil _) a begins
      have rest := ih (List.cons_ne_nil e letters) later []
      rw [Text.nfd_nil] at first
      simp only [List.nil_append, List.append_assoc, List.cons_append] at first rest ⊢
      rw [first, rest, Text.prepared_nil, List.nil_append]

end SoundLaw
