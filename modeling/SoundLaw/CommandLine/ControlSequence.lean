/-
  SoundLaw.CommandLine.ControlSequence

  The sequences that control a terminal, such as those that set a colour: an escape character and a
  bracket, parameters, and a letter. `Text.withoutControls` leaves them out of a text, in one pass
  from the left. A text without escape characters stays as it is, and what is left is in order.
-/
import SoundLaw.Text.Basic

namespace SoundLaw

/-- The character that every control sequence starts with. -/
def escape : Char := '\x1b'

/-- Whether a character may stand among the parameters of a control sequence. -/
def isParameter (c : Char) : Bool := c.isDigit || c == ';' || c == '?'

/-- Whether a text is a control sequence. -/
def IsControlSequence (s : Text) : Prop :=
  ∃ (parameters : Text) (final : Char), s = escape :: '[' :: parameters ++ [final] ∧
    (∀ c ∈ parameters, isParameter c = true) ∧ final.isAlpha = true

/-- What follows the control sequence at the start of a text, if there is one. -/
def Text.afterControl? : Text → Option Text
  | c :: '[' :: t =>
    match t.dropWhile isParameter with
    | final :: rest => if c = escape ∧ final.isAlpha then some rest else none
    | [] => none
  | _ => none

theorem toNat_of_isAlpha {c : Char} (h : c.isAlpha = true) :
    (65 ≤ c.toNat ∧ c.toNat ≤ 90) ∨ (97 ≤ c.toNat ∧ c.toNat ≤ 122) := by
  have cases : (c.isUpper || c.isLower) = true := h
  rcases Bool.or_eq_true_iff.1 cases with upper | lower
  · exact Or.inl (of_decide_eq_true upper)
  · have bounds := Bool.and_eq_true_iff.1 lower
    exact Or.inr ⟨of_decide_eq_true bounds.1, of_decide_eq_true bounds.2⟩

/-- Letters are no parameters. -/
theorem isParameter_eq_false_of_isAlpha {c : Char} (h : c.isAlpha = true) :
    isParameter c = false := by
  have letter := toNat_of_isAlpha h
  simp only [isParameter, Bool.or_eq_false_iff, beq_eq_false_iff_ne]
  refine ⟨⟨?_, ?_⟩, ?_⟩
  · rw [← Bool.not_eq_true]
    intro digit
    have bounds := Bool.and_eq_true_iff.1 digit
    have first : 48 ≤ c.toNat := of_decide_eq_true bounds.1
    have last : c.toNat ≤ 57 := of_decide_eq_true bounds.2
    omega
  · rintro rfl
    exact absurd h (by decide)
  · rintro rfl
    exact absurd h (by decide)

/-- The sequence that a text starts with is found, and what follows it is given. -/
theorem Text.afterControl?_eq_some_iff {t rest : Text} :
    t.afterControl? = some rest ↔ ∃ s, IsControlSequence s ∧ t = s ++ rest := by
  constructor
  · intro h
    unfold Text.afterControl? at h
    split at h
    · next c t =>
      split at h
      · next final rest' dropped =>
        split at h
        · next found =>
          cases h
          refine ⟨escape :: '[' :: t.takeWhile isParameter ++ [final],
            ⟨_, final, rfl, ?_, found.2⟩, ?_⟩
          · exact List.all_eq_true.1 List.all_takeWhile
          · have whole := List.takeWhile_append_dropWhile (p := isParameter) (l := t)
            rw [dropped] at whole
            simp [found.1, whole]
        · simp at h
      · simp at h
    · simp at h
  · rintro ⟨s, ⟨parameters, final, rfl, among, letter⟩, rfl⟩
    have dropped : (parameters ++ final :: rest).dropWhile isParameter = final :: rest := by
      rw [List.dropWhile_append_of_pos among,
        List.dropWhile_cons_of_neg (by simp [isParameter_eq_false_of_isAlpha letter])]
    simp [Text.afterControl?, dropped, letter]

/-- What follows a control sequence is shorter than the text. -/
theorem Text.length_lt_of_afterControl? {t rest : Text} (h : t.afterControl? = some rest) :
    rest.length < t.length := by
  obtain ⟨s, ⟨parameters, final, rfl, _⟩, rfl⟩ := Text.afterControl?_eq_some_iff.1 h
  simp
  omega

/-- A text without its control sequences. -/
def Text.withoutControls : Text → Text
  | [] => []
  | c :: t =>
    match _follows : Text.afterControl? (c :: t) with
    | some rest => Text.withoutControls rest
    | none => c :: Text.withoutControls t
termination_by t => t.length
decreasing_by
  · exact Text.length_lt_of_afterControl? _follows
  · simp

/-- A control sequence at the start of a text is left out. -/
theorem Text.withoutControls_append {s : Text} (t : Text) (h : IsControlSequence s) :
    Text.withoutControls (s ++ t) = t.withoutControls := by
  have follows : Text.afterControl? (s ++ t) = some t :=
    Text.afterControl?_eq_some_iff.2 ⟨s, h, rfl⟩
  obtain ⟨parameters, final, rfl, _⟩ := h
  simp only [List.cons_append] at follows ⊢
  rw [Text.withoutControls]
  split
  · next rest found =>
    rw [follows] at found
    cases found
    rfl
  · next none =>
    rw [follows] at none
    simp at none

/-- A text without escape characters stays as it is. -/
theorem Text.withoutControls_eq_self {t : Text} (h : escape ∉ t) : t.withoutControls = t := by
  fun_induction Text.withoutControls t with
  | case1 => rfl
  | case2 c t rest follows ih =>
    obtain ⟨s, ⟨parameters, final, rfl, _⟩, whole⟩ := Text.afterControl?_eq_some_iff.1 follows
    simp [whole] at h
  | case3 c t follows ih =>
    rw [ih fun member => h (List.mem_cons_of_mem c member)]

/-- What is left of a text stands in the order of the text. -/
theorem Text.withoutControls_sublist (t : Text) : t.withoutControls.Sublist t := by
  fun_induction Text.withoutControls t with
  | case1 => exact List.Sublist.refl []
  | case2 c t rest follows ih =>
    obtain ⟨s, _, whole⟩ := Text.afterControl?_eq_some_iff.1 follows
    rw [whole]
    exact ih.trans (List.sublist_append_right s rest)
  | case3 c t follows ih => exact ih.cons_cons c

end SoundLaw
