/-
  SoundLaw.Proofs.Match.Simulation

  Two searches side by side. Two variants, each with its own row of phonemes, are searched alike if
  their steps stand opposite each other, so do their phonemes, and each step treats a phoneme as the
  step opposite treats the phoneme opposite (`Simulation`). What one step preserves is carried along
  the row by induction (`Simulation.bindSteps`), and from there to the search for the leftmost match
  (`Simulation.findMatch?`).
-/
import Mathlib.Data.List.Forall2
import SoundLaw.Proofs.Match.Binding

namespace SoundLaw

/-! ## Optional results -/

section Rel

variable {α β γ δ : Type} {R : α → β → Prop} {S : γ → δ → Prop}

theorem rel_self (x : Option α) : Option.Rel (· = ·) x x := by
  cases x with
  | none => exact .none
  | some a => exact .some rfl

theorem rel_isSome {x : Option α} {y : Option β} (h : Option.Rel R x y) : x.isSome = y.isSome := by
  cases h with
  | none => rfl
  | some _ => rfl

theorem exists_of_rel_some {a : α} {y : Option β} (h : Option.Rel R (some a) y) :
    ∃ b, y = some b ∧ R a b := by
  cases h with
  | some related => exact ⟨_, rfl, related⟩

theorem rel_mono {x : Option α} {y : Option β} {T : α → β → Prop} (h : Option.Rel R x y)
    (weaker : ∀ a b, R a b → T a b) : Option.Rel T x y := by
  cases h with
  | none => exact .none
  | some related => exact .some (weaker _ _ related)

theorem rel_bind {x : Option α} {y : Option β} {f : α → Option γ} {g : β → Option δ}
    (h : Option.Rel R x y) (next : ∀ a b, R a b → Option.Rel S (f a) (g b)) :
    Option.Rel S (x >>= f) (y >>= g) := by
  cases h with
  | none => exact .none
  | some related => exact next _ _ related

theorem rel_filter {x : Option α} {y : Option β} {p : α → Bool} {q : β → Bool}
    (h : Option.Rel R x y) (same : ∀ a b, R a b → p a = q b) :
    Option.Rel R (x.filter p) (y.filter q) := by
  cases h with
  | none => exact .none
  | @some a b related =>
    rw [Option.filter_some, Option.filter_some, same a b related]
    split
    · exact .some related
    · exact .none

theorem rel_findSome? {xs : List γ} {f : γ → Option α} {g : γ → Option β}
    (h : ∀ x ∈ xs, Option.Rel R (f x) (g x)) : Option.Rel R (xs.findSome? f) (xs.findSome? g) := by
  induction xs with
  | nil => exact .none
  | cons x xs ih =>
    obtain ⟨here, later⟩ := List.forall_mem_cons.1 h
    rw [List.findSome?_cons, List.findSome?_cons]
    generalize f x = first at here ⊢
    generalize g x = second at here ⊢
    cases here with
    | none => exact ih later
    | some related => exact .some related

end Rel

/-! ## Rows side by side -/

/-- Related steps treat related phonemes alike: they ask for the same, and what they are bound to is
    related again. -/
structure Simulation (S : Step → Step → Prop) (P : Phoneme → Phoneme → Prop)
    (B : Binding → Binding → Prop) : Prop where
  consumes : ∀ {s t}, S s t → s.consumes = t.consumes
  coindex : ∀ {s t}, S s t → s.oldCoindex = t.oldCoindex
  key : ∀ {p q}, P p q → p.key = q.key
  marked : ∀ {s t p q}, S s t → P p q → p.hasMarks s.oldMark = q.hasMarks t.oldMark
  chosen : ∀ {s t p q}, S s t → P p q →
    Option.Rel (fun i j => B ⟨s, some p, i⟩ ⟨t, some q, j⟩) (s.choose? p) (t.choose? q)
  passed : ∀ {s t}, S s t → s.consumes ≠ true → B ⟨s, none, 0⟩ ⟨t, none, 0⟩
  filled : ∀ {b c}, B b c → b.phoneme.isSome = c.phoneme.isSome

/-- Two matches of the same phonemes with the same captures, and with related bindings. -/
structure Match.Alike (B : Binding → Binding → Prop) (m n : Match) : Prop where
  start : m.start = n.start
  stop : m.stop = n.stop
  bindings : List.Forall₂ B m.bindings n.bindings
  captures : m.captures = n.captures

namespace Simulation

variable {S : Step → Step → Prop} {P : Phoneme → Phoneme → Prop} {B : Binding → Binding → Prop}
  (sim : Simulation S P B)

include sim

/-- Related rows are both bound, with the same captures, or neither of them is. -/
theorem bindSteps {steps others : List Step} (row : List.Forall₂ S steps others)
    {ps qs : List Phoneme} (word : List.Forall₂ P ps qs) (captures : Captures) :
    Option.Rel (fun made other => List.Forall₂ B made.1 other.1 ∧ made.2 = other.2)
      (bindSteps captures steps ps) (bindSteps captures others qs) := by
  -- Along the row: the captures are the same before each step, and so they are after it.
  induction row generalizing ps qs captures with
  | nil => exact .some ⟨.nil, rfl⟩
  | @cons s t steps others here _ ih =>
    by_cases consumes : s.consumes = true
    · have consumed : t.consumes = true := sim.consumes here ▸ consumes
      cases word with
      | nil =>
        rw [bindSteps_cons_nil consumes, bindSteps_cons_nil consumed]
        exact .none
      | @cons p q ps qs same word =>
        rw [SoundLaw.bindSteps, SoundLaw.bindSteps, if_pos consumes, if_pos consumed]
        dsimp only
        rw [← sim.marked here same, ← sim.coindex here, ← sim.key same]
        refine rel_bind (sim.chosen here same) fun i j chosen => ?_
        refine rel_bind (rel_self _) fun _ _ _ => ?_
        refine rel_bind (rel_self _) fun between _ equal => ?_
        subst equal
        refine rel_bind (ih word between) fun made other related => ?_
        exact .some ⟨.cons chosen related.1, related.2⟩
    · have passed : t.consumes ≠ true := sim.consumes here ▸ consumes
      rw [bindSteps.eq_def, bindSteps.eq_def]
      dsimp only
      rw [if_neg consumes, if_neg passed]
      refine rel_bind (ih word captures) fun made other related => ?_
      exact .some ⟨.cons (sim.passed here consumes) related.1, related.2⟩

theorem countP_isSome {bindings others : List Binding} (row : List.Forall₂ B bindings others) :
    bindings.countP (·.phoneme.isSome) = others.countP (·.phoneme.isSome) := by
  induction row with
  | nil => rfl
  | cons here _ ih => rw [List.countP_cons, List.countP_cons, sim.filled here, ih]

theorem bindAt {v w : Variant} (row : List.Forall₂ S v.steps w.steps) {ps qs : List Phoneme}
    (word : List.Forall₂ P ps qs) (start : Nat) :
    Option.Rel (Match.Alike B) (v.bindAt ps start) (w.bindAt qs start) := by
  rw [Variant.bindAt, Variant.bindAt]
  refine rel_bind (sim.bindSteps row (List.forall₂_drop start word) []) fun made other related => ?_
  refine .some ⟨rfl, ?_, related.1, related.2⟩
  rw [sim.countP_isSome related.1]

/-- Related variants with the same position match related words at the same place, or neither of
    them matches. -/
theorem findMatch? {v w : Variant} (row : List.Forall₂ S v.steps w.steps)
    (position : v.position = w.position) {ps qs : List Phoneme} (word : List.Forall₂ P ps qs) :
    Option.Rel (Match.Alike B) (v.findMatch? ps) (w.findMatch? qs) := by
  rw [Variant.findMatch?, Variant.findMatch?, ← position, ← word.length_eq]
  refine rel_findSome? fun start _ => rel_filter (sim.bindAt row word start) ?_
  intro m n alike
  rw [alike.stop]

end Simulation

end SoundLaw
