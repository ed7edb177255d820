/-
  SoundLaw.Proofs.Variant.Literal

  What the literals of a compiled rule are. A slot stands for phonemes that are spelled out and
  composed, so that none is empty and none has a long `ſ`, which is spelled `ss`. A slot that stands
  for a phoneme has a literal, and no other slot has one.
-/
import Mathlib.Data.List.TakeWhile
import SoundLaw.Proofs.Notation.Prepared
import SoundLaw.Proofs.Text.LongS
import SoundLaw.Variant.Alignment

namespace SoundLaw

/-- What can be a literal: a text that is not empty, composed and without a long `ſ`. -/
structure Text.IsLiteral (literal : Text) : Prop where
  filled : literal ≠ []
  composed : literal.nfc = literal
  short : literal.nfd.IsShort

/-! ## Spelling out -/

/-- What is spelled out has no long `ſ`, unless with its dot. -/
theorem isLongS_of_mem_spellOut {c d : Char} (final : decompose c = [c]) (h : d ∈ spellOut c) :
    isLongS d = false := by
  rw [spellOut] at h
  split at h
  · next digraph found =>
    have letters : (DigraphTable.words.all fun d => d.1.all fun k => !isLongS k) = true := by
      decide
    have letters := List.all_eq_true.1 letters digraph (List.mem_of_find?_eq_some found)
    simpa using List.all_eq_true.1 letters d h
  · next none =>
    -- Without its dot, the long letter is a stand-in; with it, it decomposes.
    rw [List.mem_singleton.1 h, ← Bool.not_eq_true, isLongS_iff]
    rintro (rfl | rfl)
    · exact absurd none (by decide)
    · exact absurd final (by decide +kernel)

theorem Text.isLiteral_literal {unit : Text} (filled : unit ≠ [])
    (final : ∀ c ∈ unit, decompose c = [c]) : (Text.literal unit).IsLiteral := by
  have spelled : unit.spelledOut ≠ [] := by
    obtain ⟨c, rest, rfl⟩ := List.exists_cons_of_ne_nil filled
    rw [Text.spelledOut, List.flatMap_cons]
    exact fun empty => spellOut_ne_nil c (List.append_eq_nil_iff.1 empty).1
  have short : unit.spelledOut.IsShort := by
    intro d hd
    obtain ⟨c, hc, hd⟩ := List.mem_flatMap.1 hd
    exact isLongS_of_mem_spellOut (final c hc) hd
  refine ⟨Text.nfc_ne_nil spelled, Text.nfc_nfc _, ?_⟩
  -- Composing brings no letter in.
  rw [Text.literal, Text.nfd_nfc]
  exact short.nfd

/-! ## Groups -/

/-- The alternatives that follow an open one are not empty, and are made of what is left. -/
theorem mem_alternativesFrom {opened t alternative : Text} (filled : opened ≠ [])
    (h : alternative ∈ alternativesFrom opened t) :
    alternative ≠ [] ∧ ∀ c ∈ alternative, c ∈ opened ∨ c ∈ t := by
  -- Along the text: what is skipped changes nothing, a mark joins the open alternative, and any
  -- other character closes it.
  induction t generalizing opened with
  | nil =>
    rw [alternativesFrom, List.mem_singleton] at h
    subst h
    exact ⟨filled, fun c hc => Or.inl hc⟩
  | cons d t ih =>
    rw [alternativesFrom] at h
    split at h
    · obtain ⟨kept, inside⟩ := ih filled h
      refine ⟨kept, fun c hc => ?_⟩
      rcases inside c hc with first | later
      · exact Or.inl first
      · exact Or.inr (List.mem_cons_of_mem d later)
    · split at h
      · obtain ⟨kept, inside⟩ := ih (by simp) h
        refine ⟨kept, fun c hc => ?_⟩
        rcases inside c hc with first | later
        · rcases List.mem_append.1 first with first | mark
          · exact Or.inl first
          · exact Or.inr (List.mem_cons.2 (Or.inl (List.mem_singleton.1 mark)))
        · exact Or.inr (List.mem_cons_of_mem d later)
      · rcases List.mem_cons.1 h with rfl | h
        · exact ⟨filled, fun c hc => Or.inl hc⟩
        · obtain ⟨kept, inside⟩ := ih (List.cons_ne_nil d []) h
          refine ⟨kept, fun c hc => Or.inr ?_⟩
          rcases inside c hc with first | later
          · rw [List.mem_singleton.1 first]
            exact List.mem_cons_self
          · exact List.mem_cons_of_mem d later

theorem mem_alternatives {content alternative : Text} (h : alternative ∈ content.alternatives) :
    alternative ≠ [] ∧ ∀ c ∈ alternative, c ∈ content := by
  rw [Text.alternatives] at h
  split at h
  · exact absurd h (by simp)
  · next c t rest =>
    obtain ⟨filled, inside⟩ := mem_alternativesFrom (List.cons_ne_nil c []) h
    refine ⟨filled, fun d hd => ?_⟩
    have part : d ∈ c :: t := by simpa using inside d hd
    rw [← rest] at part
    exact (List.dropWhile_suffix _).subset part

theorem alternativesFrom_ne_nil (opened t : Text) : alternativesFrom opened t ≠ [] := by
  induction t generalizing opened with
  | nil => exact List.cons_ne_nil opened []
  | cons c t ih =>
    rw [alternativesFrom]
    split
    · exact ih opened
    · split
      · exact ih _
      · exact List.cons_ne_nil _ _

theorem alternatives_ne_nil {content : Text} (several : 0 < content.countUnits) :
    content.alternatives ≠ [] := by
  rw [Text.alternatives]
  split
  · next none =>
    -- All characters were dropped, but a phoneme is neither white space nor a coindex.
    obtain ⟨c, inside, unit⟩ := List.countP_pos_iff.1 several
    have skipped := List.dropWhile_eq_nil_iff.1 none c inside
    rw [Bool.or_eq_true] at skipped
    simp only [isUnit, Bool.and_eq_true, Bool.not_eq_true'] at unit
    rcases skipped with blank | subscript
    · exact absurd (blank.symm.trans unit.2) (by simp)
    · exact absurd (subscript.symm.trans unit.1.2) (by simp)
  · exact alternativesFrom_ne_nil _ _

/-! ## Slots -/

theorem Symbol.IsPrepared.isLiteral {symbol : Symbol} (h : symbol.IsPrepared) {literal : Text}
    (member : literal ∈ symbol.literals) : literal.IsLiteral := by
  cases symbol with
  | literal c =>
    rw [Symbol.literals, List.mem_singleton] at member
    rw [member]
    refine Text.isLiteral_literal (List.cons_ne_nil c []) fun d hd => ?_
    rw [List.mem_singleton.1 hd]
    exact h
  | group content =>
    obtain ⟨alternative, inside, rfl⟩ := List.mem_map.1 member
    obtain ⟨filled, inside⟩ := mem_alternatives inside
    exact Text.isLiteral_literal filled fun c hc => h.final c (inside c hc)
  | vowel =>
    have letters : (vowelClass.all fun literal => !literal.isEmpty && literal.nfc == literal &&
        literal.nfd.all fun c => !isLongS c) = true := by decide +kernel
    have checked := List.all_eq_true.1 letters literal member
    simp only [Bool.and_eq_true, Bool.not_eq_true', List.isEmpty_eq_false_iff, beq_iff_eq,
      List.all_eq_true] at checked
    exact ⟨checked.1.1, checked.1.2, checked.2⟩
  | wildcard => exact absurd member (by simp [Symbol.literals])
  | deletion => exact absurd member (by simp [Symbol.literals])

theorem Symbol.IsPrepared.literals_ne_nil {symbol : Symbol} (h : symbol.IsPrepared)
    (wildcard : symbol ≠ .wildcard) (deletion : symbol ≠ .deletion) : symbol.literals ≠ [] := by
  cases symbol with
  | literal c => exact List.cons_ne_nil _ _
  | group content =>
    rw [Symbol.literals, ne_eq, List.map_eq_nil_iff]
    exact alternatives_ne_nil (Nat.lt_of_succ_lt h.several)
  | vowel => exact List.cons_ne_nil _ _
  | wildcard => exact absurd rfl wildcard
  | deletion => exact absurd rfl deletion

end SoundLaw
