/-
  SoundLaw.Proofs.Notation.Halves

  The halves of a notation. They and their options are pieces of it
  (`Text.isInfix_of_mem_options`). In a notation that is written with square brackets, each half
  stands in its brackets around the arrow, and taking these and the white space away leaves what is
  between them (`splitHalves_bracketed`).
-/
import Mathlib.Data.List.DropRight
import SoundLaw.Notation.Halves

namespace SoundLaw

/-! ## Splitting -/

section

variable {separator : Char} {a b : Text}

theorem Text.split_of_notMem (absent : separator ∉ a) : a.split separator = [a] := by
  induction a with
  | nil => rfl
  | cons c a ih =>
    rw [List.mem_cons, not_or] at absent
    rw [Text.split, if_neg (Ne.symm absent.1), ih absent.2]

theorem Text.split_append (absent : separator ∉ a) :
    Text.split separator (a ++ separator :: b) = a :: b.split separator := by
  induction a with
  | nil => simp [Text.split]
  | cons c a ih =>
    rw [List.mem_cons, not_or] at absent
    rw [List.cons_append, Text.split, if_neg (Ne.symm absent.1), ih absent.2]

end

/-- Every part of a text is a piece of it, and the first one begins it. -/
theorem Text.isInfix_of_mem_split (separator : Char) (t : Text) :
    (∀ part ∈ (t.split separator).head?, part <+: t) ∧ ∀ part ∈ t.split separator, part <:+: t := by
  induction t with
  | nil => simp [Text.split]
  | cons c t ih =>
    have later : ∀ part ∈ Text.split separator t, part <:+: c :: t := fun part member =>
      (ih.2 part member).trans (List.suffix_cons c t).isInfix
    rw [Text.split]
    split
    · exact ⟨by simp, List.forall_mem_cons.2 ⟨List.nil_infix, later⟩⟩
    · split
      · next none => exact absurd none (Text.split_ne_nil separator t)
      · next first parts split =>
        rw [split] at ih later
        have begins : c :: first <+: c :: t :=
          List.cons_prefix_cons.2 ⟨rfl, ih.1 first rfl⟩
        exact ⟨by simpa using begins, List.forall_mem_cons.2 ⟨begins.isInfix,
          fun part member => later part (List.mem_cons_of_mem first member)⟩⟩

theorem Text.length_split (separator : Char) (t : Text) :
    (t.split separator).length = t.count separator + 1 := by
  induction t with
  | nil => rfl
  | cons c t ih =>
    rw [Text.split]
    by_cases here : c = separator
    · rw [if_pos here, here, List.length_cons, ih, List.count_cons_self]
    · rw [if_neg here, List.count_cons_of_ne here, ← ih]
      obtain ⟨part, parts, split⟩ := List.exists_cons_of_ne_nil (Text.split_ne_nil separator t)
      rw [split]
      rfl

/-- Texts with a separator between them are split apart again. -/
theorem Text.split_intercalate {separator : Char} {parts : List Text} (filled : parts ≠ [])
    (absent : ∀ part ∈ parts, separator ∉ part) :
    Text.split separator ([separator].intercalate parts) = parts := by
  induction parts with
  | nil => exact absurd rfl filled
  | cons part parts ih =>
    obtain ⟨here, later⟩ := List.forall_mem_cons.1 absent
    cases parts with
    | nil => rw [List.intercalate_singleton, Text.split_of_notMem here]
    | cons next parts =>
      rw [List.intercalate_cons_cons, List.append_assoc, List.singleton_append,
        Text.split_append here, ih (List.cons_ne_nil next parts) later]

theorem Text.mem_intercalate {separator c : Char} {parts : List Text}
    (h : c ∈ [separator].intercalate parts) : c = separator ∨ ∃ part ∈ parts, c ∈ part := by
  induction parts with
  | nil => exact absurd h (by simp)
  | cons part parts ih =>
    cases parts with
    | nil =>
      rw [List.intercalate_singleton] at h
      exact Or.inr ⟨part, List.mem_cons_self, h⟩
    | cons next parts =>
      rw [List.intercalate_cons_cons, List.append_assoc, List.singleton_append, List.mem_append,
        List.mem_cons] at h
      rcases h with here | same | later
      · exact Or.inr ⟨part, List.mem_cons_self, here⟩
      · exact Or.inl same
      · refine (ih later).imp_right ?_
        rintro ⟨p, member, inside⟩
        exact ⟨p, List.mem_cons_of_mem part member, inside⟩

/-! ## White space -/

theorem Text.stripEnd_eq (t : Text) : t.stripEnd = t.rdropWhile isBlank := rfl

theorem Text.strip_isInfix (t : Text) : t.strip <:+: t := by
  rw [Text.strip, Text.stripEnd_eq]
  exact (List.rdropWhile_prefix isBlank _).isInfix.trans (List.dropWhile_suffix isBlank).isInfix

/-- A text that begins and ends with something visible has no white space around it. -/
theorem Text.strip_of_visible {first last : Char} (opens : isBlank first = false)
    (closes : isBlank last = false) {before after : Text} (blankBefore : ∀ c ∈ before, isBlank c)
    (blankAfter : ∀ c ∈ after, isBlank c) (t : Text) :
    Text.strip (before ++ first :: t ++ last :: after) = first :: t ++ [last] := by
  have fromStart : (before ++ first :: t ++ last :: after).dropWhile isBlank =
      first :: t ++ last :: after := by
    rw [List.append_assoc, List.dropWhile_append_of_pos blankBefore, List.cons_append,
      List.dropWhile_cons_of_neg (by simp [opens])]
  have backwards : (first :: t ++ last :: after).reverse =
      after.reverse ++ last :: (first :: t).reverse := by simp
  rw [Text.strip, fromStart, Text.stripEnd, Text.dropEndWhile, backwards,
    List.dropWhile_append_of_pos (by simpa using blankAfter),
    List.dropWhile_cons_of_neg (by simp [closes])]
  simp

theorem Text.strip_strip (t : Text) : t.strip.strip = t.strip := by
  -- Without the blanks at its end, a text still has no blank at its start.
  have start : ∀ u : Text, u.dropWhile isBlank = u → u.stripEnd.dropWhile isBlank = u.stripEnd := by
    intro u visible
    rw [Text.stripEnd_eq]
    obtain ⟨blanks, whole⟩ := List.rdropWhile_prefix isBlank u
    cases kept : u.rdropWhile isBlank with
    | nil => rfl
    | cons c v =>
      rw [kept, List.cons_append] at whole
      rw [← whole, List.dropWhile_eq_self_iff] at visible
      exact List.dropWhile_cons_of_neg (visible (by simp))
  rw [Text.strip, Text.strip, start _ (List.dropWhile_idempotent isBlank t), Text.stripEnd_eq,
    Text.stripEnd_eq, List.rdropWhile_idempotent]

/-! ## Brackets -/

theorem Text.unbracketed_isInfix (t : Text) : t.unbracketed <:+: t := by
  unfold Text.unbracketed
  split
  · next t =>
    split
    · exact (List.dropLast_prefix t).isInfix.trans (List.suffix_cons '[' t).isInfix
    · exact List.infix_rfl
  · exact List.infix_rfl

theorem Text.stripBrackets_isInfix (t : Text) : t.stripBrackets <:+: t :=
  (Text.strip_isInfix _).trans ((Text.unbracketed_isInfix _).trans t.strip_isInfix)

theorem Text.isInfix_of_mem_options {half option : Text} (h : option ∈ half.options) :
    option <:+: half := by
  obtain ⟨part, member, rfl⟩ := List.mem_map.1 h
  exact part.stripBrackets_isInfix.trans ((Text.isInfix_of_mem_split '|' half).2 part member)

theorem Text.length_options (half : Text) : half.options.length = half.count '|' + 1 := by
  rw [Text.options, List.length_map, Text.length_split]

theorem Text.stripBrackets_bracketed (before after : Text) (blankBefore : ∀ c ∈ before, isBlank c)
    (blankAfter : ∀ c ∈ after, isBlank c) (t : Text) :
    Text.stripBrackets (before ++ '[' :: t ++ ']' :: after) = t.strip := by
  have opens : isBlank '[' = false := by decide
  have closes : isBlank ']' = false := by decide
  rw [Text.stripBrackets, Text.strip_of_visible opens closes blankBefore blankAfter]
  simp [Text.unbracketed]

/-- A notation with one arrow is split there. -/
theorem splitHalves_arrow {old new : Text} (oldPlain : '>' ∉ old) (newPlain : '>' ∉ new) :
    splitHalves (old ++ '>' :: new) = .ok (old.stripBrackets, new.stripBrackets) := by
  rw [splitHalves, Text.split_append oldPlain, Text.split_of_notMem newPlain]

/-- A notation with no arrow or several ones has no halves. -/
theorem splitHalves_of_count_ne {notated : Text} (arrows : notated.count '>' ≠ 1) :
    splitHalves notated = .error (.malformed (.arrows notated)) := by
  rw [splitHalves]
  split
  · next old new split =>
    have two := Text.length_split '>' notated
    rw [split, List.length_cons, List.length_singleton] at two
    exact absurd (Nat.succ.inj two).symm arrows
  · rfl

/-- The halves of a notation in square brackets. -/
theorem splitHalves_bracketed {old new : Text} (oldPlain : '>' ∉ old) (newPlain : '>' ∉ new) :
    splitHalves ('[' :: old ++ [']', ' '] ++ '>' :: (' ' :: '[' :: new ++ [']'])) =
      .ok (old.strip, new.strip) := by
  have first : '>' ∉ '[' :: old ++ [']', ' '] := by simpa using oldPlain
  have second : '>' ∉ ' ' :: '[' :: new ++ [']'] := by simpa using newPlain
  have oldHalf := Text.stripBrackets_bracketed [] [' '] (by simp) (by simp; decide) old
  have newHalf := Text.stripBrackets_bracketed [' '] [] (by simp; decide) (by simp) new
  rw [splitHalves_arrow first second, ← oldHalf, ← newHalf]
  rfl

end SoundLaw
