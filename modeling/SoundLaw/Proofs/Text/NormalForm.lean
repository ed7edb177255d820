/-
  SoundLaw.Proofs.Text.NormalForm

  The laws of the two canonical forms. Decomposing is idempotent (`nfd_nfd`), and composing loses
  nothing: the decomposed form of a composed text is that of the text (`nfd_nfc`), from which it
  follows that composing is idempotent too (`nfc_nfc`).

  The second law goes along `composeOnto`. What it has composed so far and what it has still to
  read decompose, in canonical order, to the same text at every step: a mark that joins the starter
  passes over kept marks of lower classes only, and marks of different classes may change places.
-/
import Mathlib.Data.List.Chain
import SoundLaw.Proofs.Text.CanonicalTables

namespace SoundLaw

/-! ## Canonical order -/

/-- A text is in canonical order if no mark follows a mark of a higher class. -/
def Text.Ordered (t : Text) : Prop :=
  t.IsChain fun c d => combiningClass d = 0 ∨ combiningClass c ≤ combiningClass d

theorem insertMark_of_ordered {c : Char} {t : Text} (h : Text.Ordered (c :: t)) :
    insertMark c t = c :: t := by
  cases t with
  | nil => rfl
  | cons d t =>
    have follows := (List.isChain_cons_cons.1 h).1
    rw [insertMark, if_neg]
    omega

theorem Text.Ordered.insertMark {t : Text} (h : t.Ordered) (c : Char) :
    Text.Ordered (insertMark c t) := by
  induction t with
  | nil => exact List.isChain_singleton c
  | cons d t ih =>
    rw [SoundLaw.insertMark]
    split
    · next passes =>
      -- `d` stays in front, and what follows it is either `c` or what followed it before.
      refine List.isChain_cons.2 ⟨?_, ih h.of_cons⟩
      intro e he
      cases t with
      | nil =>
        rw [SoundLaw.insertMark, List.head?_cons, Option.mem_some_iff] at he
        subst he
        omega
      | cons f t =>
        have follows := (List.isChain_cons_cons.1 h).1
        rw [SoundLaw.insertMark] at he
        split at he
        · rw [List.head?_cons, Option.mem_some_iff] at he
          exact he ▸ follows
        · rw [List.head?_cons, Option.mem_some_iff] at he
          subst he
          omega
    · next stays =>
      refine List.isChain_cons_cons.2 ⟨?_, h⟩
      omega

theorem ordered_reorderMarks (t : Text) : Text.Ordered (reorderMarks t) := by
  induction t with
  | nil => exact List.isChain_nil
  | cons c t ih => exact ih.insertMark c

theorem reorderMarks_of_ordered {t : Text} (h : t.Ordered) : reorderMarks t = t := by
  induction t with
  | nil => rfl
  | cons c t ih =>
    have tail : reorderMarks t = t := ih h.of_cons
    show insertMark c (reorderMarks t) = c :: t
    rw [tail, insertMark_of_ordered h]

/-- Two marks of different classes can be put in front of a text in either order. -/
theorem insertMark_comm {a b : Char} (ha : combiningClass a ≠ 0) (hb : combiningClass b ≠ 0)
    (different : combiningClass a ≠ combiningClass b) (t : Text) :
    insertMark a (insertMark b t) = insertMark b (insertMark a t) := by
  induction t with
  | nil =>
    by_cases lower : combiningClass a < combiningClass b
    · have higher : ¬combiningClass b < combiningClass a := by omega
      simp [insertMark, ha, lower, higher]
    · have higher : combiningClass b < combiningClass a := by omega
      simp [insertMark, hb, lower, higher]
  | cons d t ih =>
    -- Each of the two passes the mark in front or stops before it; where both stop, the lower one
    -- goes first.
    by_cases passA : combiningClass d ≠ 0 ∧ combiningClass d < combiningClass a
    · by_cases passB : combiningClass d ≠ 0 ∧ combiningClass d < combiningClass b
      · simp only [insertMark, if_pos passA, if_pos passB, ih]
      · have higher : combiningClass b ≠ 0 ∧ combiningClass b < combiningClass a := by omega
        have lower : ¬(combiningClass a ≠ 0 ∧ combiningClass a < combiningClass b) := by omega
        simp only [insertMark, if_pos passA, if_neg passB, if_pos higher]
    · by_cases passB : combiningClass d ≠ 0 ∧ combiningClass d < combiningClass b
      · have lower : combiningClass a ≠ 0 ∧ combiningClass a < combiningClass b := by omega
        simp only [insertMark, if_neg passA, if_pos passB, if_pos lower]
      · rcases Nat.lt_or_gt_of_ne different with lower | higher
        · have passes : combiningClass a ≠ 0 ∧ combiningClass a < combiningClass b := ⟨ha, lower⟩
          have stays : ¬(combiningClass b ≠ 0 ∧ combiningClass b < combiningClass a) := by omega
          simp only [insertMark, if_neg passA, if_neg passB, if_pos passes, if_neg stays]
        · have passes : combiningClass b ≠ 0 ∧ combiningClass b < combiningClass a := ⟨hb, higher⟩
          have stays : ¬(combiningClass a ≠ 0 ∧ combiningClass a < combiningClass b) := by omega
          simp only [insertMark, if_neg passA, if_neg passB, if_pos passes, if_neg stays]

theorem reorderMarks_append (s t : Text) :
    reorderMarks (s ++ t) = s.foldr insertMark (reorderMarks t) := by
  rw [reorderMarks, List.foldr_append]
  rfl

theorem reorderMarks_append_congr (s : Text) {t u : Text} (h : reorderMarks t = reorderMarks u) :
    reorderMarks (s ++ t) = reorderMarks (s ++ u) := by
  rw [reorderMarks_append, reorderMarks_append, h]

/-- In canonical order, a mark may stand before or after marks of lower classes. -/
theorem reorderMarks_mark_append {c : Char} {marks : Text}
    (lower : ∀ k ∈ marks, combiningClass k ≠ 0 ∧ combiningClass k < combiningClass c) (t : Text) :
    reorderMarks (c :: (marks ++ t)) = reorderMarks (marks ++ c :: t) := by
  induction marks with
  | nil => rfl
  | cons k marks ih =>
    obtain ⟨hk, below⟩ := lower k List.mem_cons_self
    have tail := ih fun l hl => lower l (List.mem_cons_of_mem k hl)
    calc reorderMarks (c :: (k :: marks ++ t))
        = insertMark c (insertMark k (reorderMarks (marks ++ t))) := rfl
      _ = insertMark k (insertMark c (reorderMarks (marks ++ t))) :=
          insertMark_comm (by omega) hk (by omega) _
      _ = insertMark k (reorderMarks (marks ++ c :: t)) := by rw [← tail]; rfl
      _ = reorderMarks (k :: marks ++ c :: t) := rfl

/-! ## The decomposed form -/

theorem mem_nfd {c : Char} {t : Text} : c ∈ t.nfd ↔ ∃ d ∈ t, c ∈ decompose d := by
  rw [Text.nfd, (reorderMarks_perm _).mem_iff, List.mem_flatMap]

/-- The characters of a decomposed text do not decompose. -/
theorem decompose_eq_self_of_mem_nfd {c : Char} {t : Text} (h : c ∈ t.nfd) : decompose c = [c] := by
  obtain ⟨d, _, part⟩ := mem_nfd.1 h
  exact decompose_eq_self_of_mem_decompose part

theorem flatMap_decompose_eq_self {t : Text} (final : ∀ c ∈ t, decompose c = [c]) :
    t.flatMap decompose = t := by
  induction t with
  | nil => rfl
  | cons c t ih =>
    rw [List.flatMap_cons, final c List.mem_cons_self,
      ih fun d hd => final d (List.mem_cons_of_mem c hd)]
    rfl

theorem Text.ordered_nfd (t : Text) : t.nfd.Ordered := ordered_reorderMarks _

theorem Text.nfd_nfd (t : Text) : t.nfd.nfd = t.nfd := by
  rw [Text.nfd, flatMap_decompose_eq_self fun c hc => decompose_eq_self_of_mem_nfd hc,
    reorderMarks_of_ordered t.ordered_nfd]

/-! ## The composed form -/

/-- What holds between the marks that stay since a starter, latest first, and the text that is still
    to be composed. -/
structure Pending (kept t : Text) : Prop where
  /-- Nothing decomposes any further. -/
  final : ∀ c ∈ kept ++ t, decompose c = [c]
  /-- No starter is kept. -/
  marks : ∀ k ∈ kept, combiningClass k ≠ 0
  /-- The classes of the kept marks ascend in the text. -/
  sorted : kept.Pairwise fun k l => combiningClass l ≤ combiningClass k
  /-- A mark that comes next has no lower class than the kept ones. -/
  below : ∀ c ∈ t.head?, combiningClass c = 0 ∨ ∀ k ∈ kept, combiningClass k ≤ combiningClass c
  ordered : t.Ordered

namespace Pending

variable {kept t : Text} {c : Char}

/-- After a starter, nothing is kept. -/
theorem restart (h : Pending kept (c :: t)) : Pending [] t where
  final d hd := h.final d (List.mem_append_right kept (List.mem_cons_of_mem c hd))
  marks := by simp
  sorted := List.Pairwise.nil
  below d _ := Or.inr (by simp)
  ordered := h.ordered.of_cons

/-- The next mark can be kept. -/
theorem keep (h : Pending kept (c :: t)) (mark : combiningClass c ≠ 0) : Pending (c :: kept) t where
  final d hd := by
    apply h.final d
    simp only [List.mem_append, List.mem_cons] at hd ⊢
    rcases hd with (same | kept) | rest
    · exact Or.inr (Or.inl same)
    · exact Or.inl kept
    · exact Or.inr (Or.inr rest)
  marks := List.forall_mem_cons.2 ⟨mark, h.marks⟩
  sorted := by
    refine List.pairwise_cons.2 ⟨fun k hk => ?_, h.sorted⟩
    rcases h.below c (by simp) with starter | below
    · exact absurd starter mark
    · exact below k hk
  below d hd := by
    have follows := (List.isChain_cons.1 h.ordered).1 d hd
    rcases h.below c (by simp) with starter | below
    · exact absurd starter mark
    · refine follows.imp_right fun hle => List.forall_mem_cons.2 ⟨hle, fun k hk => ?_⟩
      exact Nat.le_trans (below k hk) hle
  ordered := h.ordered.of_cons

/-- A mark that reaches the starter has a higher class than all kept ones. -/
theorem lower (h : Pending kept (c :: t)) (reaches : reachesStarter kept c = true) :
    ∀ k ∈ kept, combiningClass k < combiningClass c := by
  cases kept with
  | nil => simp
  | cons l kept =>
    rw [reachesStarter, decide_eq_true_eq] at reaches
    refine List.forall_mem_cons.2 ⟨reaches, fun k hk => ?_⟩
    exact Nat.lt_of_le_of_lt ((List.pairwise_cons.1 h.sorted).1 k hk) reaches

/-- The next mark can join the starter. -/
theorem join (h : Pending kept (c :: t)) (reaches : reachesStarter kept c = true) :
    Pending kept t where
  final d hd := by
    apply h.final d
    simp only [List.mem_append, List.mem_cons] at hd ⊢
    exact hd.imp_right Or.inr
  marks := h.marks
  sorted := h.sorted
  below d hd := by
    have follows := (List.isChain_cons.1 h.ordered).1 d hd
    refine follows.imp_right fun hle k hk => ?_
    exact Nat.le_trans (Nat.le_of_lt (h.lower reaches k hk)) hle
  ordered := h.ordered.of_cons

end Pending

/-- Composing onto a starter keeps what the text decomposes to in canonical order. -/
theorem reorderMarks_composeOnto (starter : Char) (kept t : Text) (h : Pending kept t) :
    reorderMarks ((composeOnto starter kept t).flatMap decompose)
      = reorderMarks (decompose starter ++ (kept.reverse ++ t)) := by
  fun_induction composeOnto starter kept t with
  | case1 starter kept =>
    have final := flatMap_decompose_eq_self (t := kept.reverse) fun c hc =>
      h.final c (List.mem_append_left [] (List.mem_reverse.1 hc))
    rw [List.flatMap_cons, final, List.append_nil]
  | case2 starter kept c t joined found ih =>
    split at found
    · next reaches =>
      -- The mark that is joined passes the marks kept before it, which have lower classes.
      have single : decompose c = [c] := h.final c (by simp)
      have lower : ∀ k ∈ kept.reverse, combiningClass k ≠ 0 ∧ combiningClass k < combiningClass c :=
        fun k hk => ⟨h.marks k (List.mem_reverse.1 hk), h.lower reaches k (List.mem_reverse.1 hk)⟩
      rw [ih (h.join reaches), decompose_of_composite? found, single, List.append_assoc]
      exact reorderMarks_append_congr _ (reorderMarks_mark_append lower t)
    · exact absurd found (by simp)
  | case3 starter kept c t blocked isStarter ih =>
    -- What was kept stays before the new starter, which no mark passes.
    have final := flatMap_decompose_eq_self (t := kept.reverse) fun d hd =>
      h.final d (List.mem_append_left _ (List.mem_reverse.1 hd))
    have single : decompose c = [c] := h.final c (by simp)
    rw [List.cons_append, List.flatMap_cons, List.flatMap_append, final]
    apply reorderMarks_append_congr
    apply reorderMarks_append_congr
    rw [ih h.restart, single]
    rfl
  | case4 starter kept c t blocked mark ih =>
    rw [ih (h.keep mark), List.reverse_cons, List.append_assoc]
    rfl

/-- Composing loses nothing. -/
theorem Text.nfd_nfc (t : Text) : t.nfc.nfd = t.nfd := by
  have whole : reorderMarks ((composeMarks t.nfd).flatMap decompose) = reorderMarks t.nfd := by
    cases split : t.nfd with
    | nil => rfl
    | cons c rest =>
      have final : ∀ d ∈ c :: rest, decompose d = [d] := by
        rw [← split]
        exact fun d hd => decompose_eq_self_of_mem_nfd hd
      have ordered : Text.Ordered (c :: rest) := split ▸ t.ordered_nfd
      have pending : Pending [] rest :=
        { final := fun d hd => final d (List.mem_cons_of_mem c hd)
          marks := by simp
          sorted := List.Pairwise.nil
          below := fun d _ => Or.inr (by simp)
          ordered := ordered.of_cons }
      show reorderMarks ((composeOnto c [] rest).flatMap decompose) = reorderMarks (c :: rest)
      rw [reorderMarks_composeOnto c [] rest pending, final c List.mem_cons_self]
      rfl
  rw [Text.nfc, Text.nfd, whole, reorderMarks_of_ordered t.ordered_nfd]

theorem Text.nfc_nfc (t : Text) : t.nfc.nfc = t.nfc := by
  rw [Text.nfc, Text.nfd_nfc, ← Text.nfc]

theorem Text.nfc_nfd (t : Text) : t.nfd.nfc = t.nfc := by
  rw [Text.nfc, Text.nfd_nfd, ← Text.nfc]

theorem Text.nfd_ne_nil {t : Text} (h : t ≠ []) : t.nfd ≠ [] := by
  obtain ⟨c, rest, rfl⟩ := List.exists_cons_of_ne_nil h
  obtain ⟨d, hd⟩ := List.exists_mem_of_ne_nil _ (decompose_ne_nil c)
  exact List.ne_nil_of_mem (mem_nfd.2 ⟨c, List.mem_cons_self, hd⟩)

theorem Text.nfc_ne_nil {t : Text} (h : t ≠ []) : t.nfc ≠ [] := by
  intro empty
  have same := t.nfd_nfc
  rw [empty, Text.nfd_nil] at same
  exact Text.nfd_ne_nil h same.symm

end SoundLaw
