/-
  SoundLaw.Proofs.Traversal

  Checked steps and checked traversals. A step that follows another one succeeds if both do, and a
  traversal of a list if every element does; where something fails, one of the parts failed in the
  same way. Two checked computations agree if both fail, or both succeed with results that are
  related (`Agree`), and they do if their steps do.
-/
import Mathlib.Data.List.Forall2

namespace SoundLaw

variable {ε α β γ : Type}

theorem bind_eq_ok_iff {first : Except ε α} {next : α → Except ε β} {y : β} :
    (first >>= next) = .ok y ↔ ∃ x, first = .ok x ∧ next x = .ok y := by
  cases first with
  | error e => simp [bind, Except.bind]
  | ok x => simp [bind, Except.bind]

theorem bind_eq_error_iff {first : Except ε α} {next : α → Except ε β} {e : ε} :
    (first >>= next) = .error e ↔
      first = .error e ∨ ∃ x, first = .ok x ∧ next x = .error e := by
  cases first with
  | error e => simp [bind, Except.bind]
  | ok x => simp [bind, Except.bind]

theorem eq_ok_of_toOption_eq_some {result : Except ε α} {x : α} (h : result.toOption = some x) :
    result = .ok x := by
  cases result with
  | error e => exact absurd h (by simp [Except.toOption])
  | ok y => rw [Option.some.inj h]

theorem mapM_eq_ok_iff {f : α → Except ε β} {xs : List α} {ys : List β} :
    xs.mapM f = .ok ys ↔ List.Forall₂ (fun x y => f x = .ok y) xs ys := by
  induction xs generalizing ys with
  | nil => simp [pure, Except.pure, eq_comm]
  | cons x xs ih =>
    rw [List.mapM_cons, bind_eq_ok_iff]
    constructor
    · rintro ⟨y, first, others⟩
      obtain ⟨rest, later, same⟩ := bind_eq_ok_iff.1 others
      obtain rfl : y :: rest = ys := by simpa [pure, Except.pure] using same
      exact List.Forall₂.cons first (ih.1 later)
    · intro all
      cases all with
      | cons first later => exact ⟨_, first, bind_eq_ok_iff.2 ⟨_, ih.2 later, rfl⟩⟩

theorem exists_of_forall₂ {R : α → β → Prop} {xs : List α} {ys : List β}
    (h : List.Forall₂ R xs ys) {x : α} (hx : x ∈ xs) : ∃ y ∈ ys, R x y := by
  induction h with
  | nil => exact absurd hx (by simp)
  | @cons a b as bs here _ ih =>
    rcases List.mem_cons.1 hx with rfl | later
    · exact ⟨b, List.mem_cons_self, here⟩
    · obtain ⟨y, member, related⟩ := ih later
      exact ⟨y, List.mem_cons_of_mem b member, related⟩

/-- Elements that are related in two rows and in two others are related in pairs. -/
theorem forall₂_zip_zip {δ : Type} {R : α → β → Prop} {S : γ → δ → Prop} {xs : List α}
    {ys : List β} {us : List γ} {vs : List δ} (h : List.Forall₂ R xs ys)
    (k : List.Forall₂ S us vs) :
    List.Forall₂ (fun p q => R p.1 q.1 ∧ S p.2 q.2) (xs.zip us) (ys.zip vs) := by
  induction h generalizing us vs with
  | nil => exact .nil
  | cons here _ ih =>
    cases k with
    | nil => exact .nil
    | cons there later => exact .cons ⟨here, there⟩ (ih later)

theorem mapM_congr_of_forall₂ {f : α → Except ε γ} {g : β → Except ε γ}
    {xs : List α} {ys : List β} (h : List.Forall₂ (fun x y => f x = g y) xs ys) :
    xs.mapM f = ys.mapM g := by
  induction h with
  | nil => rfl
  | cons here _ ih => rw [List.mapM_cons, List.mapM_cons, here, ih]

/-- A traversal fails as one of its elements does. -/
theorem exists_of_mapM_eq_error {f : α → Except ε β} {xs : List α} {e : ε}
    (h : xs.mapM f = .error e) : ∃ x ∈ xs, f x = .error e := by
  induction xs with
  | nil => simp [pure, Except.pure] at h
  | cons x xs ih =>
    rw [List.mapM_cons] at h
    rcases bind_eq_error_iff.1 h with here | ⟨y, _, later⟩
    · exact ⟨x, List.mem_cons_self, here⟩
    · rcases bind_eq_error_iff.1 later with later | ⟨rest, _, done⟩
      · obtain ⟨z, member, failed⟩ := ih later
        exact ⟨z, List.mem_cons_of_mem x member, failed⟩
      · simp [pure, Except.pure] at done

/-- A traversal of which every element succeeds gives the list of the results. -/
theorem mapM_eq_ok_map {f : α → Except ε β} {g : α → β} {xs : List α}
    (h : ∀ x ∈ xs, f x = .ok (g x)) : xs.mapM f = .ok (xs.map g) := by
  rw [mapM_eq_ok_iff, List.forall₂_map_right_iff, List.forall₂_same]
  exact h

theorem exists_mapM_eq_ok {f : α → Except ε β} {xs : List α}
    (h : ∀ x ∈ xs, ∃ y, f x = .ok y) : ∃ ys, xs.mapM f = .ok ys := by
  cases traversed : xs.mapM f with
  | ok ys => exact ⟨ys, rfl⟩
  | error e =>
    obtain ⟨x, member, failed⟩ := exists_of_mapM_eq_error traversed
    obtain ⟨y, succeeded⟩ := h x member
    exact absurd (failed.symm.trans succeeded) (by simp)

/-! ## Agreement -/

/-- Two computations that both fail, in whatever way, or both give a result. -/
inductive Agree (R : α → β → Prop) : Except ε α → Except ε β → Prop
  | ok {x : α} {y : β} (related : R x y) : Agree R (.ok x) (.ok y)
  | error {d e : ε} : Agree R (.error d) (.error e)

namespace Agree

variable {R : α → β → Prop} {first : Except ε α} {second : Except ε β}

theorem ok_iff {x y : Except ε α} (h : Agree (· = ·) x y) (a : α) : x = .ok a ↔ y = .ok a := by
  cases h with
  | ok same => rw [same]
  | error => simp

theorem map {δ : Type} {S : γ → δ → Prop} {f : α → γ} {g : β → δ} (h : Agree R first second)
    (image : ∀ x y, R x y → S (f x) (g y)) : Agree S (first.map f) (second.map g) := by
  cases h with
  | ok related => exact .ok (image _ _ related)
  | error => exact .error

theorem bind {δ : Type} {S : γ → δ → Prop} {f : α → Except ε γ} {g : β → Except ε δ}
    (h : Agree R first second) (next : ∀ x y, R x y → Agree S (f x) (g y)) :
    Agree S (first >>= f) (second >>= g) := by
  cases h with
  | ok related => exact next _ _ related
  | error => exact .error

theorem mapM {δ : Type} {S : γ → δ → Prop} {f : α → Except ε γ} {g : β → Except ε δ} {xs : List α}
    {ys : List β} (h : List.Forall₂ R xs ys) (each : ∀ x y, R x y → Agree S (f x) (g y)) :
    Agree (List.Forall₂ S) (xs.mapM f) (ys.mapM g) := by
  induction h with
  | nil => exact .ok .nil
  | @cons x y xs ys here _ ih =>
    rw [List.mapM_cons, List.mapM_cons]
    exact (each x y here).bind fun _ _ made => ih.bind fun _ _ others => .ok (.cons made others)

end Agree

end SoundLaw
