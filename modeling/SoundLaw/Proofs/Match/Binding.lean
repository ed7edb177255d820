/-
  SoundLaw.Proofs.Match.Binding

  What it takes to bind a row of steps to phonemes. The steps that consume are paired with the
  first phonemes, in order. Binding succeeds exactly if there are enough phonemes, every step
  accepts its own one, and steps with one coindex have phonemes with one key. `Bound` says what is
  bound then, and `isSome_bindSteps_iff` when.
-/
import Mathlib.Data.Option.Basic
import SoundLaw.Match
import SoundLaw.Proofs.Text.NormalForm

namespace SoundLaw

/-! ## Literals and phonemes -/

/-- A phoneme has the key of a literal, and all its marks. -/
def Phoneme.Fits (p : Phoneme) (literal : Text) : Prop :=
  literal.literalKey = p.key ∧ ∀ m ∈ literal.literalMarks, m ∈ p.marks

/-- A phoneme fits a literal of a step, and has the marks that the step asks for. -/
def Step.Accepts (s : Step) (p : Phoneme) : Prop :=
  (∃ literal ∈ s.find, p.Fits literal) ∧ ∀ m ∈ s.oldMark.nfd, m ∈ p.marks

/-- Of the literals of a step that a phoneme fits, the one at this index has the most marks, and is
    the first one of those. -/
def Step.Prefers (s : Step) (p : Phoneme) (i : Nat) : Prop :=
  ∃ literal, s.find[i]? = some literal ∧ p.Fits literal ∧
    ∀ j other, s.find[j]? = some other → p.Fits other →
      other.literalMarks.length ≤ literal.literalMarks.length ∧
        (other.literalMarks.length = literal.literalMarks.length → i ≤ j)

theorem Phoneme.hasMarks_iff {p : Phoneme} {marks : Text} :
    p.hasMarks marks = true ↔ ∀ m ∈ marks.nfd, m ∈ p.marks := by
  simp [Phoneme.hasMarks]

theorem mem_nfd_literalMarks {m : Char} {literal : Text} :
    m ∈ literal.literalMarks.nfd ↔ m ∈ literal.literalMarks := by
  have final : ∀ d ∈ literal.literalMarks, decompose d = [d] := by
    intro d hd
    rw [Text.literalMarks, Text.marks] at hd
    exact decompose_eq_self_of_mem_nfd (List.mem_of_mem_filter hd)
  rw [Text.nfd, (reorderMarks_perm _).mem_iff, flatMap_decompose_eq_self final]

theorem Phoneme.isMatchedBy_iff {p : Phoneme} {literal : Text} :
    p.isMatchedBy literal = true ↔ p.Fits literal := by
  rw [Phoneme.isMatchedBy, Bool.and_eq_true, beq_iff_eq, Phoneme.hasMarks_iff, Phoneme.Fits]
  simp only [mem_nfd_literalMarks]

/-! ## The choice of a literal -/

theorem mem_candidates {s : Step} {p : Phoneme} {i n : Nat} :
    (i, n) ∈ s.candidates p ↔
      ∃ literal, s.find[i]? = some literal ∧ p.Fits literal ∧ literal.literalMarks.length = n := by
  rw [Step.candidates, List.mem_filterMap]
  constructor
  · rintro ⟨⟨literal, j⟩, listed, chosen⟩
    rw [List.mem_zipIdx_iff_getElem?] at listed
    by_cases fits : p.isMatchedBy literal = true
    · simp only [fits, if_true, Option.some.injEq, Prod.mk.injEq] at chosen
      obtain ⟨rfl, rfl⟩ := chosen
      exact ⟨literal, listed, Phoneme.isMatchedBy_iff.1 fits, rfl⟩
    · simp [fits] at chosen
  · rintro ⟨literal, listed, fits, rfl⟩
    refine ⟨(literal, i), List.mem_zipIdx_iff_getElem?.2 listed, ?_⟩
    simp [Phoneme.isMatchedBy_iff.2 fits]

/-- The candidates stand in the order of their indices. -/
theorem pairwise_candidates (s : Step) (p : Phoneme) :
    (s.candidates p).Pairwise fun a b => a.1 < b.1 := by
  have indices : s.find.zipIdx.Pairwise fun a b => a.2 < b.2 := by
    rw [← List.pairwise_map (f := Prod.snd) (R := fun i j : Nat => i < j), List.zipIdx_map_snd]
    exact List.pairwise_lt_range'
  rw [Step.candidates, List.pairwise_filterMap]
  refine indices.imp ?_
  rintro ⟨literal, i⟩ ⟨other, j⟩ before x hx y hy
  dsimp only at hx hy
  have first : i = x.1 := by
    split at hx
    · rw [← Option.some.inj hx]
    · exact absurd hx (by simp)
  have second : j = y.1 := by
    split at hy
    · rw [← Option.some.inj hy]
    · exact absurd hy (by simp)
  rwa [first, second] at before

theorem mostMarked_eq_none_iff {candidates : List (Nat × Nat)} :
    mostMarked candidates = none ↔ candidates = [] := by
  cases candidates with
  | nil => simp [mostMarked]
  | cons c rest =>
    simp only [mostMarked, reduceCtorEq, iff_false]
    split
    · split <;> simp
    · simp

theorem mostMarked_spec {candidates : List (Nat × Nat)} {best : Nat × Nat}
    (sorted : candidates.Pairwise fun a b => a.1 < b.1) (h : mostMarked candidates = some best) :
    best ∈ candidates ∧ ∀ c ∈ candidates, c.2 ≤ best.2 ∧ (c.2 = best.2 → best.1 ≤ c.1) := by
  induction candidates generalizing best with
  | nil => simp [mostMarked] at h
  | cons c rest ih =>
    obtain ⟨before, sorted⟩ := List.pairwise_cons.1 sorted
    rw [mostMarked] at h
    cases found : mostMarked rest with
    | none =>
      rw [found, Option.some.injEq] at h
      rw [mostMarked_eq_none_iff.1 found, ← h]
      simp
    | some later =>
      obtain ⟨member, most⟩ := ih sorted found
      rw [found] at h
      by_cases fewer : c.2 < later.2
      · -- The candidate in front has fewer marks than the best one after it.
        simp only [fewer, if_true, Option.some.injEq] at h
        subst h
        refine ⟨List.mem_cons_of_mem c member, fun d hd => ?_⟩
        rcases List.mem_cons.1 hd with rfl | hd
        · exact ⟨by omega, fun same => by omega⟩
        · exact most d hd
      · -- It has as many at least, and comes first.
        simp only [fewer, if_false, Option.some.injEq] at h
        subst h
        refine ⟨List.mem_cons_self, fun d hd => ?_⟩
        rcases List.mem_cons.1 hd with rfl | hd
        · exact ⟨Nat.le_refl _, fun _ => Nat.le_refl _⟩
        · have fewest := (most d hd).1
          have first := before d hd
          exact ⟨by omega, fun _ => by omega⟩

theorem Step.choose?_eq_none_iff {s : Step} {p : Phoneme} :
    s.choose? p = none ↔ ∀ literal ∈ s.find, ¬p.Fits literal := by
  rw [Step.choose?, Option.map_eq_none_iff, mostMarked_eq_none_iff, List.eq_nil_iff_forall_not_mem]
  constructor
  · intro none literal member fits
    obtain ⟨i, listed⟩ := List.mem_iff_getElem?.1 member
    exact none (i, _) (mem_candidates.2 ⟨literal, listed, fits, rfl⟩)
  · rintro none ⟨i, n⟩ candidate
    obtain ⟨literal, listed, fits, _⟩ := mem_candidates.1 candidate
    exact none literal (List.mem_of_getElem? listed) fits

theorem Step.prefers_of_choose? {s : Step} {p : Phoneme} {i : Nat} (h : s.choose? p = some i) :
    s.Prefers p i := by
  obtain ⟨⟨_, n⟩, found, rfl⟩ := Option.map_eq_some_iff.1 h
  obtain ⟨member, most⟩ := mostMarked_spec (pairwise_candidates s p) found
  obtain ⟨literal, listed, fits, rfl⟩ := mem_candidates.1 member
  exact ⟨literal, listed, fits, fun j other listed fits =>
    most (j, _) (mem_candidates.2 ⟨other, listed, fits, rfl⟩)⟩

theorem Step.Prefers.mem {s : Step} {p : Phoneme} {i : Nat} (h : s.Prefers p i) :
    ∃ literal ∈ s.find, p.Fits literal := by
  obtain ⟨literal, listed, fits, _⟩ := h
  exact ⟨literal, List.mem_of_getElem? listed, fits⟩

/-! ## Captures -/

/-- A key can be captured unless the coindex holds another one. -/
theorem Captures.isSome_bind?_iff {captures : Captures} {coindex : Option Int} {key : Text} :
    (captures.bind? coindex key).isSome = true ↔
      ∀ n, coindex = some n → ∀ held, captures.lookup n = some held → held = key := by
  cases coindex with
  | none => simp [Captures.bind?]
  | some n =>
    rw [Captures.bind?]
    cases held : captures.lookup n with
    | none => simp [held]
    | some key' =>
      by_cases same : key' = key
      · simp [same, held]
      · simp [same, held]

theorem Captures.lookup_of_bind? {captures captures' : Captures} {coindex : Option Int}
    {key : Text} (h : captures.bind? coindex key = some captures') (n : Int) (k : Text) :
    captures'.lookup n = some k ↔
      captures.lookup n = some k ∨ coindex = some n ∧ key = k := by
  cases coindex with
  | none =>
    rw [Captures.bind?, Option.some.injEq] at h
    simp [h]
  | some c =>
    rw [Captures.bind?] at h
    cases held : captures.lookup c with
    | none =>
      -- The coindex is new: its key goes to the end, behind the captures that there are.
      rw [held, Option.some.injEq] at h
      rw [← h, List.lookup_append, List.lookup_cons, List.lookup_nil]
      by_cases here : n = c
      · subst here
        simp [held]
      · have other : (n == c) = false := by simpa using here
        rw [other, Option.or_none]
        simp [Ne.symm here]
    | some key' =>
      simp only [held] at h
      -- The coindex holds a key: nothing is added, and another key is refused.
      by_cases same : key' = key
      · rw [if_pos same, Option.some.injEq] at h
        subst h same
        constructor
        · exact Or.inl
        · rintro (before | ⟨here, rfl⟩)
          · exact before
          · rwa [← Option.some.inj here]
      · rw [if_neg same] at h
        exact absurd h (by simp)

/-! ## Rows of steps -/

/-- The steps of a row that consume, each with its phoneme. -/
def pairedSteps (steps : List Step) (ps : List Phoneme) : List (Step × Phoneme) :=
  (steps.filter Step.consumes).zip ps

theorem pairedSteps_cons_of_consumes {s : Step} (h : s.consumes = true) (steps : List Step)
    (p : Phoneme) (ps : List Phoneme) :
    pairedSteps (s :: steps) (p :: ps) = (s, p) :: pairedSteps steps ps := by
  rw [pairedSteps, List.filter_cons_of_pos h, List.zip_cons_cons, ← pairedSteps]

theorem pairedSteps_cons_of_not_consumes {s : Step} (h : s.consumes ≠ true) (steps : List Step)
    (ps : List Phoneme) : pairedSteps (s :: steps) ps = pairedSteps steps ps := by
  rw [pairedSteps, List.filter_cons_of_neg h, ← pairedSteps]

/-- What one step of a row does to a phoneme. -/
theorem bindSteps_cons_eq_some_iff {captures captures' : Captures} {s : Step}
    (h : s.consumes = true) {steps : List Step} {p : Phoneme} {ps : List Phoneme}
    {bindings : List Binding} :
    bindSteps captures (s :: steps) (p :: ps) = some (bindings, captures') ↔
      ∃ choice between rest, s.choose? p = some choice ∧ (∀ m ∈ s.oldMark.nfd, m ∈ p.marks) ∧
        captures.bind? s.oldCoindex p.key = some between ∧
        bindSteps between steps ps = some (rest, captures') ∧
        { step := s, phoneme := some p, choice } :: rest = bindings := by
  rw [← Phoneme.hasMarks_iff, bindSteps, if_pos h]
  dsimp only
  by_cases marked : p.hasMarks s.oldMark = true
  · have passes : (guard (p.hasMarks s.oldMark = true) : Option Unit) = some () := if_pos marked
    rw [passes]
    simp [Option.bind_eq_some_iff, marked]
  · have fails : (guard (p.hasMarks s.oldMark = true) : Option Unit) = none := if_neg marked
    rw [fails]
    simp [marked]

theorem bindSteps_cons_nil {captures : Captures} {s : Step} (h : s.consumes = true)
    (steps : List Step) : bindSteps captures (s :: steps) [] = none := by
  rw [bindSteps, if_pos h]

/-- A step that does not consume leaves the phonemes to the others. -/
theorem bindSteps_cons_of_not_consumes {captures captures' : Captures} {s : Step}
    (h : s.consumes ≠ true) {steps : List Step} {ps : List Phoneme} {bindings : List Binding} :
    bindSteps captures (s :: steps) ps = some (bindings, captures') ↔
      ∃ rest, bindSteps captures steps ps = some (rest, captures') ∧
        { step := s } :: rest = bindings := by
  rw [bindSteps.eq_def]
  dsimp only
  rw [if_neg h]
  simp [Option.bind_eq_some_iff]

/-! ## Binding a row -/

/-- What a row of steps is bound to. -/
structure Bound (captures : Captures) (steps : List Step) (ps : List Phoneme)
    (bindings : List Binding) (captures' : Captures) : Prop where
  row : bindings.map Binding.step = steps
  consumes : ∀ b ∈ bindings, b.phoneme.isSome = b.step.consumes
  paired : bindings.filterMap (fun b => b.phoneme.map (b.step, ·)) = pairedSteps steps ps
  room : (steps.filter Step.consumes).length ≤ ps.length
  accepted : ∀ pair ∈ pairedSteps steps ps, pair.1.Accepts pair.2
  chosen : ∀ b ∈ bindings, ∀ p, b.phoneme = some p → b.step.Prefers p b.choice
  captured : ∀ n key, captures'.lookup n = some key ↔
    captures.lookup n = some key ∨
      ∃ pair ∈ pairedSteps steps ps, pair.1.oldCoindex = some n ∧ pair.2.key = key

theorem Bound.nil (captures : Captures) (ps : List Phoneme) : Bound captures [] ps [] captures := by
  constructor <;> simp [pairedSteps]

/-- A step that consumes goes in front of a bound row, with the phoneme that it accepts. -/
theorem Bound.consume {captures between captures' : Captures} {s : Step} {p : Phoneme}
    {steps : List Step} {ps : List Phoneme} {rest : List Binding} {choice : Nat}
    (consumes : s.consumes = true) (prefers : s.Prefers p choice)
    (marked : ∀ m ∈ s.oldMark.nfd, m ∈ p.marks)
    (bound : captures.bind? s.oldCoindex p.key = some between)
    (later : Bound between steps ps rest captures') :
    Bound captures (s :: steps) (p :: ps) ({ step := s, phoneme := some p, choice } :: rest)
      captures' := by
  have paired := pairedSteps_cons_of_consumes consumes steps p ps
  constructor
  · rw [List.map_cons, later.row]
  · exact List.forall_mem_cons.2 ⟨consumes.symm, later.consumes⟩
  · rw [paired, ← later.paired]
    rfl
  · rw [List.filter_cons_of_pos consumes]
    exact Nat.succ_le_succ later.room
  · rw [paired]
    exact List.forall_mem_cons.2 ⟨⟨prefers.mem, marked⟩, later.accepted⟩
  · refine List.forall_mem_cons.2 ⟨fun q hq => ?_, later.chosen⟩
    rw [← Option.some.inj hq]
    exact prefers
  · -- What is captured here is found again, whatever the later steps capture.
    intro n key
    rw [later.captured, Captures.lookup_of_bind? bound, or_assoc, paired]
    simp only [List.mem_cons, or_and_right, exists_or, exists_eq_left]

/-- A step that does not consume goes in front of a bound row, without a phoneme. -/
theorem Bound.pass {captures captures' : Captures} {s : Step} {steps : List Step}
    {ps : List Phoneme} {rest : List Binding} (consumes : s.consumes ≠ true)
    (later : Bound captures steps ps rest captures') :
    Bound captures (s :: steps) ps ({ step := s } :: rest) captures' := by
  have paired := pairedSteps_cons_of_not_consumes consumes steps ps
  constructor
  · rw [List.map_cons, later.row]
  · refine List.forall_mem_cons.2 ⟨?_, later.consumes⟩
    simp [consumes]
  · rw [paired, ← later.paired]
    rfl
  · rw [List.filter_cons_of_neg consumes]
    exact later.room
  · rw [paired]
    exact later.accepted
  · refine List.forall_mem_cons.2 ⟨fun q hq => ?_, later.chosen⟩
    exact absurd hq (by simp)
  · intro n key
    rw [later.captured, paired]

theorem bound_of_bindSteps {captures captures' : Captures} {steps : List Step} {ps : List Phoneme}
    {bindings : List Binding} (h : bindSteps captures steps ps = some (bindings, captures')) :
    Bound captures steps ps bindings captures' := by
  -- Along the row: a step that consumes takes one phoneme and may add a capture.
  induction steps generalizing captures ps bindings with
  | nil =>
    rw [bindSteps, Option.some.injEq, Prod.mk.injEq] at h
    obtain ⟨rfl, rfl⟩ := h
    exact Bound.nil captures ps
  | cons s steps ih =>
    by_cases consumes : s.consumes = true
    · cases ps with
      | nil => exact absurd h (by simp [bindSteps_cons_nil consumes])
      | cons p ps =>
        obtain ⟨choice, between, rest, chosen, marked, bound, later, rfl⟩ :=
          (bindSteps_cons_eq_some_iff consumes).1 h
        exact Bound.consume consumes (Step.prefers_of_choose? chosen) marked bound (ih later)
    · obtain ⟨rest, later, rfl⟩ := (bindSteps_cons_of_not_consumes consumes).1 h
      exact Bound.pass consumes (ih later)

/-- A row can be bound if each step accepts its phoneme, and one key can be given to each coindex
    that the captures and the phonemes agree with. -/
theorem isSome_bindSteps {captures : Captures} {steps : List Step} {ps : List Phoneme}
    (room : (steps.filter Step.consumes).length ≤ ps.length)
    (accepted : ∀ pair ∈ pairedSteps steps ps, pair.1.Accepts pair.2) (keys : Int → Text)
    (held : ∀ n key, captures.lookup n = some key → key = keys n)
    (agreed : ∀ pair ∈ pairedSteps steps ps, ∀ n, pair.1.oldCoindex = some n →
      pair.2.key = keys n) :
    (bindSteps captures steps ps).isSome = true := by
  -- Along the row: what is captured so far agrees with `keys`, so that no coindex is in the way.
  induction steps generalizing captures ps with
  | nil => rfl
  | cons s steps ih =>
    by_cases consumes : s.consumes = true
    · rw [List.filter_cons_of_pos consumes, List.length_cons] at room
      cases ps with
      | nil => exact absurd room (by simp)
      | cons p ps =>
        rw [pairedSteps_cons_of_consumes consumes, List.forall_mem_cons] at accepted agreed
        obtain ⟨⟨literal, member, fits⟩, marked⟩ := accepted.1
        obtain ⟨choice, chosen⟩ : ∃ choice, s.choose? p = some choice := by
          refine Option.ne_none_iff_exists'.1 fun none => ?_
          exact Step.choose?_eq_none_iff.1 none literal member fits
        have free : (captures.bind? s.oldCoindex p.key).isSome = true := by
          refine Captures.isSome_bind?_iff.2 fun n coindex key before => ?_
          rw [held n key before, agreed.1 n coindex]
        obtain ⟨between, bound⟩ := Option.isSome_iff_exists.1 free
        have still : ∀ n key, between.lookup n = some key → key = keys n := by
          intro n key now
          rcases (Captures.lookup_of_bind? bound n key).1 now with before | ⟨coindex, rfl⟩
          · exact held n key before
          · exact agreed.1 n coindex
        obtain ⟨⟨rest, captures'⟩, later⟩ := Option.isSome_iff_exists.1
          (ih (Nat.le_of_succ_le_succ room) accepted.2 still agreed.2)
        rw [(bindSteps_cons_eq_some_iff consumes).2
          ⟨choice, between, rest, chosen, marked, bound, later, rfl⟩]
        rfl
    · rw [List.filter_cons_of_neg consumes] at room
      rw [pairedSteps_cons_of_not_consumes consumes] at accepted agreed
      obtain ⟨⟨rest, captures'⟩, later⟩ := Option.isSome_iff_exists.1
        (ih room accepted held agreed)
      rw [(bindSteps_cons_of_not_consumes consumes).2 ⟨rest, later, rfl⟩]
      rfl

/-- Pairs of a step and a phoneme where one coindex has one key. -/
def Coherent (pairs : List (Step × Phoneme)) : Prop :=
  ∀ a ∈ pairs, ∀ b ∈ pairs, ∀ n, a.1.oldCoindex = some n → b.1.oldCoindex = some n →
    a.2.key = b.2.key

theorem Bound.coherent {captures captures' : Captures} {steps : List Step} {ps : List Phoneme}
    {bindings : List Binding} (h : Bound captures steps ps bindings captures') :
    Coherent (pairedSteps steps ps) := by
  intro a ha b hb n first second
  have one := (h.captured n a.2.key).2 (Or.inr ⟨a, ha, first, rfl⟩)
  have two := (h.captured n b.2.key).2 (Or.inr ⟨b, hb, second, rfl⟩)
  exact Option.some.inj (one.symm.trans two)

/-- When a row of steps can be bound. -/
theorem isSome_bindSteps_iff {steps : List Step} {ps : List Phoneme} :
    (bindSteps [] steps ps).isSome = true ↔
      (steps.filter Step.consumes).length ≤ ps.length ∧
        (∀ pair ∈ pairedSteps steps ps, pair.1.Accepts pair.2) ∧
        Coherent (pairedSteps steps ps) := by
  constructor
  · intro h
    obtain ⟨⟨bindings, captures⟩, bound⟩ := Option.isSome_iff_exists.1 h
    have bound := bound_of_bindSteps bound
    exact ⟨bound.room, bound.accepted, bound.coherent⟩
  · rintro ⟨room, accepted, coherent⟩
    -- The key of a coindex is that of the first phoneme under it.
    refine isSome_bindSteps room accepted (fun n =>
      (((pairedSteps steps ps).find? fun pair => pair.1.oldCoindex == some n).map
        (·.2.key)).getD []) (by simp) ?_
    intro a ha n coindex
    cases found : (pairedSteps steps ps).find? fun pair => pair.1.oldCoindex == some n with
    | none => exact absurd coindex (by simpa using List.find?_eq_none.1 found a ha)
    | some b =>
      have same : b.1.oldCoindex = some n := by simpa using List.find?_some found
      exact coherent a ha b (List.mem_of_find?_eq_some found) n coindex same

end SoundLaw
