/-
  SoundLaw.Proofs.Spelling.DigraphLetters

  The letters that can stand in a digraph of rule notation. They are those of the table, their
  capitals and the Kelvin sign; none of them is a mark, and none decomposes to more than one letter.
  So no mark opens a digraph, the decomposed form of a text leaves its digraphs alone, and what comes
  before marks or composed letters is folded by itself (`fold_rules_append`).
-/
import SoundLaw.Proofs.Phoneme.Cut
import SoundLaw.Proofs.Phoneme.Folding
import SoundLaw.Proofs.Text.MarkedLetter

namespace SoundLaw

/-! ## Letters by their lower case -/

/-- A letter is its own lower case, or a run of capitals maps it to that. -/
theorem eq_or_exists_run_of_lowerLetter {c k : Char} (h : lowerLetter c = k)
    (nonzero : k.toNat ≠ 0) :
    c = k ∨ ∃ r ∈ lowerRuns, r.image ≤ k.toNat ∧ c.toNat = r.first + (k.toNat - r.image) ∧
      c.toNat ≤ r.last := by
  rcases CodeRun.apply_eq_or lowerRuns c with same | ⟨r, member, covers, mapped⟩
  · exact Or.inl (same.symm.trans h)
  · right
    rw [CodeRun.covers, Bool.and_eq_true, Bool.and_eq_true, decide_eq_true_eq, decide_eq_true_eq]
      at covers
    obtain ⟨⟨first, last⟩, _⟩ := covers
    have code : k.toNat = r.image + (c.toNat - r.first) := by
      rw [← h, lowerLetter, mapped] at nonzero ⊢
      -- A number that is no code point gives the character of code point zero.
      by_cases valid : (r.image + (c.toNat - r.first)).isValidChar
      · exact toNat_ofNat_of_isValidChar valid
      · rw [Char.ofNat, dif_neg valid] at nonzero
        exact absurd rfl nonzero
    exact ⟨r, member, by omega, by omega, last⟩

/-- Whether a code point belongs to a letter that decomposes to a single letter. -/
noncomputable def isBareCode (n : Nat) : Bool :=
  isListable n && !marksCover (n, n) && Nat.beq (decomposedCodes n).length 1

theorem isBareLetter_of_isBareCode {c : Char} (h : isBareCode c.toNat = true) : IsBareLetter c := by
  rw [isBareCode, Bool.and_eq_true, Bool.and_eq_true, Bool.not_eq_true', Nat.beq_eq] at h
  obtain ⟨⟨listable, letter⟩, single⟩ := h
  have whole := decompose_ofNat listable
  rw [Char.ofNat_toNat] at whole
  exact ⟨by rw [isMark_eq_marksCover, letter], by rw [whole, List.length_map, single]⟩

/-- Whether a check passes for the code point of each letter of the table, and for those that the
    runs of capitals map to it. -/
noncomputable def passesForLetters (check : Char → Nat → Bool) : Bool :=
  DigraphTable.rules.all fun d => d.1.all fun k =>
    !Nat.beq k.toNat 0 && check k k.toNat && lowerRuns.all fun r =>
      Nat.blt k.toNat r.image || Nat.blt r.last (r.first + (k.toNat - r.image)) ||
        check k (r.first + (k.toNat - r.image))

/-- Such a check passes for what is read as a letter of a digraph. -/
theorem check_of_sameLetter {check : Char → Nat → Bool} (passes : passesForLetters check = true)
    {d : Text × Text} (hd : d ∈ DigraphTable.rules) {k : Char} (hk : k ∈ d.1) {c : Char}
    (same : sameLetter c k = true) : check k c.toNat = true := by
  have plain := List.all_eq_true.1 (List.all_eq_true.1 DigraphTable.isPlain_rules d hd) k hk
  have checked := List.all_eq_true.1 (List.all_eq_true.1 passes d hd) k hk
  rw [Bool.and_eq_true, Bool.and_eq_true, Bool.not_eq_true', ← Bool.not_eq_true, Nat.beq_eq]
    at checked
  obtain ⟨⟨nonzero, own⟩, capitals⟩ := checked
  rcases eq_or_exists_run_of_lowerLetter (lowerLetter_eq_of_sameLetter plain same) nonzero with
    rfl | ⟨r, member, image, code, last⟩
  · exact own
  · have checked := List.all_eq_true.1 capitals r member
    rw [← code, Bool.or_eq_true, Bool.or_eq_true, Nat.blt_eq, Nat.blt_eq] at checked
    rcases checked with (before | after) | passed
    · omega
    · omega
    · exact passed

theorem isBareCode_rules : passesForLetters (fun _ => isBareCode) = true := by decide +kernel

/-- What is read as a letter of a digraph has no diacritic. -/
theorem isBareLetter_of_sameLetter {d : Text × Text} (hd : d ∈ DigraphTable.rules) {k : Char}
    (hk : k ∈ d.1) {c : Char} (same : sameLetter c k = true) : IsBareLetter c :=
  isBareLetter_of_isBareCode (check_of_sameLetter isBareCode_rules hd hk same)

/-! ## Digraphs -/

/-- No mark opens a digraph of rule notation. -/
theorem leavesMarks_rules (t : Text) : DigraphTable.rules.LeavesMarks t := by
  intro c _ mark d hd k hk
  rw [← Bool.not_eq_true]
  intro same
  exact not_isBareLetter_of_isMark mark
    (isBareLetter_of_sameLetter hd (List.mem_of_mem_head? hk) same)

theorem isBareLetter_of_opens {spelling t : Text} (listed : ∀ k ∈ spelling,
    ∃ d ∈ DigraphTable.rules, k ∈ d.1) (opening : DigraphTable.opens spelling t = true) :
    ∀ c ∈ t.take spelling.length, IsBareLetter c := by
  induction spelling generalizing t with
  | nil => simp
  | cons k spelling ih =>
    obtain ⟨⟨d, hd, hk⟩, listed⟩ := List.forall_mem_cons.1 listed
    cases t with
    | nil => simp
    | cons c t =>
      rw [DigraphTable.opens, Bool.and_eq_true] at opening
      rw [List.length_cons, List.take_succ_cons]
      exact List.forall_mem_cons.2 ⟨isBareLetter_of_sameLetter hd hk opening.1, ih listed opening.2⟩

/-- All letters of the digraphs of a table are letters of rule notation. -/
def DigraphTable.SharesLetters (table : DigraphTable) : Prop :=
  ∀ d ∈ table, ∀ k ∈ d.1, ∃ e ∈ rules, k ∈ e.1

theorem DigraphTable.sharesLetters_rules : DigraphTable.rules.SharesLetters :=
  fun d hd _ hk => ⟨d, hd, hk⟩

/-- What is read as a digraph of such letters has no diacritic. -/
theorem DigraphTable.SharesLetters.isBareLetter_of_reach {table : DigraphTable}
    (shares : table.SharesLetters) {t : Text} {n : Nat} (reached : table.reach t = some n) :
    ∀ c ∈ t.take n, IsBareLetter c := by
  obtain ⟨⟨d, hd, opening, rfl⟩, _⟩ := DigraphTable.reach_eq_some_iff.1 reached
  exact isBareLetter_of_opens (shares d (DigraphTable.mem_of_mem_readable hd).1) opening

theorem isBareLetter_of_reach {t : Text} {n : Nat} (reached : DigraphTable.rules.reach t = some n) :
    ∀ c ∈ t.take n, IsBareLetter c :=
  DigraphTable.sharesLetters_rules.isBareLetter_of_reach reached

/-! ## Characters in no digraph -/

theorem reach_rules_of_foreign {c : Char} (foreign : ¬IsBareLetter c) (rest : Text) :
    DigraphTable.rules.reach (c :: rest) = none := by
  cases reached : DigraphTable.rules.reach (c :: rest) with
  | none => rfl
  | some n =>
    have bare := isBareLetter_of_reach reached
    rw [← DigraphTable.cons_take_extent reached] at bare
    exact absurd (bare c List.mem_cons_self) foreign

/-- No digraph goes on with a character that stands in none. -/
theorem length_le_of_opens_foreign {d : Text × Text} (hd : d ∈ DigraphTable.rules) {s rest : Text}
    {c : Char} (foreign : ¬IsBareLetter c)
    (opening : DigraphTable.opens d.1 (s ++ c :: rest) = true) : d.1.length ≤ s.length := by
  by_contra longer
  rw [Nat.not_le] at longer
  refine foreign (isBareLetter_of_opens (fun k hk => ⟨d, hd, hk⟩) opening c ?_)
  rw [List.take_append, List.mem_append]
  right
  obtain ⟨n, hn⟩ := Nat.exists_eq_succ_of_ne_zero (Nat.sub_ne_zero_of_lt longer)
  rw [hn, List.take_succ_cons]
  exact List.mem_cons_self

/-- No digraph goes on into characters that stand in none. -/
theorem reach_rules_append {s u : Text} (foreign : ∀ c ∈ u, ¬IsBareLetter c) :
    DigraphTable.rules.reach (s ++ u) = DigraphTable.rules.reach s := by
  refine DigraphTable.reach_append fun d hd opening => ?_
  cases u with
  | nil =>
    rw [List.append_nil] at opening
    exact DigraphTable.length_le_of_opens opening
  | cons c u =>
    have member := (DigraphTable.mem_of_mem_readable hd).1
    exact length_le_of_opens_foreign member (foreign c List.mem_cons_self) opening

/-- Characters that stand in no digraph are read one by one, after what is before them. -/
theorem graphemes_rules_append {s u : Text} (foreign : ∀ c ∈ u, ¬IsBareLetter c) :
    graphemes DigraphTable.rules (fun _ => false) (s ++ u) =
      graphemes DigraphTable.rules (fun _ => false) s ++ u.map Grapheme.single := by
  -- By the length of `s`, of which the first digraph takes several characters.
  induction length : s.length using Nat.strong_induction_on generalizing s with
  | _ n ih =>
    cases s with
    | nil =>
      have singles := graphemes_singles_append (t := []) fun c hc =>
        reach_rules_of_foreign (foreign c hc)
      simpa using singles
    | cons c t =>
      have reached : DigraphTable.rules.reach (c :: (t ++ u)) = DigraphTable.rules.reach (c :: t) :=
        reach_rules_append (s := c :: t) foreign
      have extent : DigraphTable.rules.extent (c :: (t ++ u)) =
          DigraphTable.rules.extent (c :: t) := by
        rw [DigraphTable.extent, reached, ← DigraphTable.extent]
      have short := DigraphTable.rules.extent_le_length c t
      have later : graphemes DigraphTable.rules (fun _ => false)
          (t.drop (DigraphTable.rules.extent (c :: t)) ++ u) = _ :=
        ih _ (by rw [← length, List.length_drop, List.length_cons]; omega) rfl
      rw [List.cons_append, graphemes_without_trails_cons, graphemes_without_trails_cons, extent,
        List.drop_append_of_le_length short, later, List.cons_append, firstGrapheme, firstGrapheme,
        extent, reached, List.take_append_of_le_length short]

/-- What comes before characters that stand in no digraph is folded by itself. -/
theorem fold_rules_append {s u : Text} (foreign : ∀ c ∈ u, ¬IsBareLetter c) :
    Text.fold DigraphTable.rules (s ++ u) = s.fold DigraphTable.rules ++ u := by
  have singles : (u.map Grapheme.single).flatMap (Grapheme.phoneme DigraphTable.rules) = u := by
    rw [List.flatMap_map]
    exact List.flatMap_singleton' u
  rw [fold_eq_flatMap_phoneme DigraphTable.ne_nil_rules, graphemes_rules_append foreign,
    List.flatMap_append, singles, fold_eq_flatMap_phoneme DigraphTable.ne_nil_rules]

/-- Where every digraph has several letters, a single character is folded to itself. -/
theorem fold_singleton {table : DigraphTable} (long : ∀ d ∈ table, 2 ≤ d.1.length) (c : Char) :
    Text.fold table [c] = [c] := by
  have filled : ∀ d ∈ table, d.1 ≠ [] := by
    intro d hd empty
    have several := long d hd
    rw [empty, List.length_nil] at several
    omega
  have unread : table.reach [c] = none := DigraphTable.reach_singleton long c
  simp [fold_eq_flatMap_phoneme filled, graphemes_without_trails_cons, firstGrapheme,
    DigraphTable.extent, unread, Grapheme.phoneme]

theorem fold_rules_singleton (c : Char) : Text.fold DigraphTable.rules [c] = [c] :=
  fold_singleton DigraphTable.two_le_length_rules c

end SoundLaw
