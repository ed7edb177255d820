/-
  SoundLaw.Proofs.RuleSet.StableSort

  A stable sort as it grows. An element that is added at the end of a list goes, in the sorted
  list, behind all those that may stand before it (`mergeSort_append_singleton`), and the first
  elements of each kind grow by an element of a new kind only (`firsts_append_singleton`). So
  a list that is kept in order while elements are added, with duplicates left out, is the sorted
  list of the first elements at every time.
-/
import Mathlib.Data.List.Induction
import Mathlib.Data.List.Sort

namespace SoundLaw

variable {α : Type}

/-! ## Sorting -/

section

variable {le : α → α → Bool}

/-- Inserts an element behind those in front that may stand before it. -/
def insertLast (le : α → α → Bool) (x : α) : List α → List α
  | [] => [x]
  | y :: ys => if le y x then y :: insertLast le x ys else x :: y :: ys

/-- An element that comes before the others in a list is sorted in front of those that it may stand
    before. -/
theorem mergeSort_cons_eq_orderedInsert
    (trans : ∀ a b c, le a b = true → le b c = true → le a c = true)
    (total : ∀ a b, (le a b || le b a) = true) (x : α) (xs : List α) :
    (x :: xs).mergeSort le = (xs.mergeSort le).orderedInsert (fun a b => le a b = true) x := by
  obtain ⟨before, after, whole, rest, later⟩ := List.mergeSort_cons trans total x xs
  have sorted := List.pairwise_mergeSort trans total (x :: xs)
  rw [whole] at sorted ⊢
  rw [rest]
  have behind := (List.pairwise_cons.1 (List.pairwise_append.1 sorted).2.1).1
  clear whole rest sorted
  induction before with
  | nil =>
    cases after with
    | nil => rfl
    | cons y after =>
      rw [List.nil_append, List.nil_append, List.orderedInsert_cons,
        if_pos (behind y List.mem_cons_self)]
  | cons y before ih =>
    have notBefore : ¬le x y = true := by simpa using later y List.mem_cons_self
    rw [List.cons_append, List.cons_append, List.orderedInsert_cons, if_neg notBefore,
      ← ih fun z hz => later z (List.mem_cons_of_mem y hz)]

/-- An element that goes in front of its equals and one that goes behind them can be inserted in
    either order. -/
theorem orderedInsert_insertLast
    (trans : ∀ a b c, le a b = true → le b c = true → le a c = true)
    (total : ∀ a b, (le a b || le b a) = true) (x y : α) (zs : List α) :
    (insertLast le y zs).orderedInsert (fun a b => le a b = true) x =
      insertLast le y (zs.orderedInsert (fun a b => le a b = true) x) := by
  induction zs with
  | nil =>
    by_cases before : le x y = true
    · simp [insertLast, before]
    · simp [insertLast, before]
  | cons z zs ih =>
    by_cases front : le x z = true
    · by_cases behind : le z y = true
      · have before := trans x z y front behind
        simp [insertLast, front, behind, before]
      · by_cases before : le x y = true
        · simp [insertLast, front, behind, before]
        · simp [insertLast, front, behind, before]
    · by_cases behind : le z y = true
      · simp [insertLast, front, behind, ih]
      · -- `y` comes before `z`, which comes before `x`.
        have first : le y z = true := by simpa [behind] using total y z
        have last : ¬le x y = true := fun before => front (trans x y z before first)
        simp [insertLast, front, behind, last]

/-- An element that comes after the others in a list is sorted behind those that may stand before
    it. -/
theorem mergeSort_append_singleton
    (trans : ∀ a b c, le a b = true → le b c = true → le a c = true)
    (total : ∀ a b, (le a b || le b a) = true) (xs : List α) (y : α) :
    (xs ++ [y]).mergeSort le = insertLast le y (xs.mergeSort le) := by
  induction xs with
  | nil => simp [insertLast]
  | cons x xs ih =>
    rw [List.cons_append, mergeSort_cons_eq_orderedInsert trans total, ih,
      orderedInsert_insertLast trans total, ← mergeSort_cons_eq_orderedInsert trans total]

/-- Elements that may stand before each other keep their order. -/
theorem filter_mergeSort
    (trans : ∀ a b c, le a b = true → le b c = true → le a c = true)
    (total : ∀ a b, (le a b || le b a) = true) {p : α → Bool}
    (ties : ∀ a b, p a = true → p b = true → le a b = true) (xs : List α) :
    (xs.mergeSort le).filter p = xs.filter p := by
  have tied : (xs.filter p).Pairwise fun a b => le a b = true := by
    refine List.pairwise_filter.2 (List.pairwise_of_forall fun a b ha hb => ties a b ha hb)
  have kept := (List.sublist_mergeSort trans total tied List.filter_sublist).filter p
  rw [List.filter_filter] at kept
  simp only [Bool.and_self] at kept
  exact (kept.eq_of_length ((List.mergeSort_perm xs le).filter p).length_eq.symm).symm

end

/-! ## First elements of a kind -/

section

variable {β : Type} [DecidableEq β] {f : α → β}

/-- The first element of each kind in a list. -/
def firsts (f : α → β) (xs : List α) : List α := xs.eraseDupsBy fun a b => f a == f b

/-- An element of a new kind goes behind the first elements of the kinds that there are. -/
theorem firsts_append_singleton (xs : List α) (y : α) :
    firsts f (xs ++ [y]) = firsts f xs ++ if f y ∈ xs.map f then [] else [y] := by
  -- Along the kinds: the first element takes all those of its kind with it.
  induction length : xs.length using Nat.strong_induction_on generalizing xs with
  | _ n ih =>
    cases xs with
    | nil => simp [firsts, List.eraseDupsBy_cons]
    | cons x xs =>
      have shorter : (xs.filter fun b => decide ((f b == f x) = false)).length < n := by
        have := List.length_filter_le (fun b => decide ((f b == f x) = false)) xs
        rw [List.length_cons] at length
        omega
      rw [firsts, firsts, List.cons_append, List.eraseDupsBy_cons, List.eraseDupsBy_cons,
        List.filter_append]
      by_cases same : f y = f x
      · simp [same]
      · have kept : [y].filter (fun b => decide ((f b == f x) = false)) = [y] := by simp [same]
        have others := ih _ shorter _ rfl
        rw [firsts, firsts] at others
        rw [kept, others, List.cons_append]
        have kinds : f y ∈ (xs.filter fun b => decide ((f b == f x) = false)).map f ↔
            f y ∈ (x :: xs).map f := by
          simp only [List.mem_map, List.mem_filter, List.mem_cons, decide_eq_true_eq,
            beq_eq_false_iff_ne]
          constructor
          · rintro ⟨b, ⟨hb, _⟩, kind⟩
            exact ⟨b, Or.inr hb, kind⟩
          · rintro ⟨b, rfl | hb, kind⟩
            · exact absurd kind.symm same
            · exact ⟨b, ⟨hb, kind ▸ same⟩, kind⟩
        simp only [kinds]

theorem firsts_sublist (xs : List α) : (firsts f xs).Sublist xs := by
  induction xs using List.reverseRecOn with
  | nil => exact List.Sublist.slnil
  | append_singleton xs y ih =>
    rw [firsts_append_singleton]
    refine ih.append ?_
    split
    · exact List.nil_sublist _
    · exact List.Sublist.refl _

theorem mem_map_firsts {xs : List α} {kind : β} :
    kind ∈ (firsts f xs).map f ↔ kind ∈ xs.map f := by
  induction xs using List.reverseRecOn with
  | nil => exact Iff.rfl
  | append_singleton xs y ih =>
    rw [firsts_append_singleton, List.map_append, List.mem_append, ih, List.map_append,
      List.mem_append]
    split
    · next there =>
      constructor
      · rintro (before | none)
        · exact Or.inl before
        · simp at none
      · rintro (before | last)
        · exact Or.inl before
        · rw [List.map_singleton, List.mem_singleton] at last
          exact Or.inl (last ▸ there)
    · exact Iff.rfl

/-- The first elements are of different kinds. -/
theorem nodup_map_firsts (xs : List α) : ((firsts f xs).map f).Nodup := by
  induction xs using List.reverseRecOn with
  | nil => exact List.nodup_nil
  | append_singleton xs y ih =>
    rw [firsts_append_singleton]
    split
    · rwa [List.append_nil]
    · next new =>
      rw [List.map_append, List.map_singleton, List.nodup_append]
      refine ⟨ih, List.nodup_singleton _, ?_⟩
      intro kind before other last
      rw [List.mem_singleton] at last
      rintro rfl
      exact new (last ▸ mem_map_firsts.1 before)

end

end SoundLaw
