/-
  SoundLaw.Text.Basic

  Texts, and the shapes in which tables of characters are written down: sets of code points as
  ranges, case mappings as runs, and maps as rows. All of them are in ascending order, so that a
  look-up can stop early. `contains_iff` says that a look-up in a set of ranges misses nothing then.
-/

namespace SoundLaw

/-- A text is a sequence of characters; offsets and lengths count characters. -/
abbrev Text := List Char

/-- The character at an index, which counts from the end if it is negative; nothing if there is
    no such character. -/
def Text.nth (t : Text) (index : Int) : Text :=
  let place := if index < 0 then t.length + index else index
  if place < 0 then [] else t[place.toNat]?.toList

/-- The parts of a text between the occurrences of a separator; one part if there are none. -/
def Text.split (separator : Char) : Text → List Text
  | [] => [[]]
  | c :: t =>
    if c = separator then [] :: Text.split separator t
    else match Text.split separator t with
      | [] => [[c]]
      | part :: parts => (c :: part) :: parts

theorem Text.split_ne_nil (separator : Char) (t : Text) : Text.split separator t ≠ [] := by
  cases t with
  | nil => simp [Text.split]
  | cons c t =>
    unfold Text.split
    split
    · simp
    · split <;> simp

/-- The parts of a text before and after the first occurrence of a separator, if there is one. -/
def Text.cut? (separator : Char) : Text → Option (Text × Text)
  | [] => none
  | c :: t =>
    if c = separator then some ([], t)
    else (Text.cut? separator t).map fun parts => (c :: parts.1, parts.2)

/-- A cut loses the separator only. -/
theorem Text.eq_append_of_cut? {separator : Char} {t before after : Text}
    (h : Text.cut? separator t = some (before, after)) : t = before ++ separator :: after := by
  induction t generalizing before with
  | nil => simp [Text.cut?] at h
  | cons c t ih =>
    unfold Text.cut? at h
    split at h
    · next same =>
      simp only [Option.some.injEq, Prod.mk.injEq] at h
      simp [← h.1, ← h.2, same]
    · obtain ⟨⟨a, b⟩, cut, equal⟩ := Option.map_eq_some_iff.1 h
      simp only [Prod.mk.injEq] at equal
      obtain ⟨rfl, rfl⟩ := equal
      simp [ih cut]

/-! ## Sets of code points -/

/-- A set of code points: the first and the last member of each range, in ascending order. -/
abbrev CodeRanges := List (Nat × Nat)

namespace CodeRanges

/-- Whether a character is in one of the ranges. -/
def contains : CodeRanges → Char → Bool
  | [], _ => false
  | r :: rs, c => r.1 ≤ c.toNat && (c.toNat ≤ r.2 || contains rs c)

/-- Whether the ranges are in ascending order. -/
def ascends : CodeRanges → Bool
  | r :: s :: rs => r.1 ≤ s.1 && ascends (s :: rs)
  | _ => true

theorem exists_of_contains {rs : CodeRanges} {c : Char} (h : contains rs c = true) :
    ∃ r ∈ rs, r.1 ≤ c.toNat ∧ c.toNat ≤ r.2 := by
  induction rs with
  | nil => simp [contains] at h
  | cons r rs ih =>
    simp only [contains, Bool.and_eq_true, Bool.or_eq_true, decide_eq_true_eq] at h
    rcases h with ⟨first, last | later⟩
    · exact ⟨r, List.mem_cons_self, first, last⟩
    · obtain ⟨s, member, bounds⟩ := ih later
      exact ⟨s, List.mem_cons_of_mem r member, bounds⟩

theorem ascends_of_cons {r : Nat × Nat} {rs : CodeRanges} (h : ascends (r :: rs) = true) :
    ascends rs = true := by
  cases rs with
  | nil => rfl
  | cons s rs =>
    simp only [ascends, Bool.and_eq_true] at h
    exact h.2

theorem first_le_of_ascends {r s : Nat × Nat} {rs : CodeRanges} (h : ascends (r :: rs) = true)
    (member : s ∈ rs) : r.1 ≤ s.1 := by
  induction rs generalizing r with
  | nil => simp at member
  | cons t rs ih =>
    have tail := ascends_of_cons h
    simp only [ascends, Bool.and_eq_true, decide_eq_true_eq] at h
    rcases List.mem_cons.1 member with rfl | member
    · exact h.1
    · exact Nat.le_trans h.1 (ih tail member)

/-- A set in ascending order contains exactly the characters of its ranges. -/
theorem contains_iff {rs : CodeRanges} {c : Char} (h : ascends rs = true) :
    contains rs c = true ↔ ∃ r ∈ rs, r.1 ≤ c.toNat ∧ c.toNat ≤ r.2 := by
  refine ⟨exists_of_contains, ?_⟩
  induction rs with
  | nil => simp
  | cons r rs ih =>
    rintro ⟨s, member, bounds⟩
    simp only [contains, Bool.and_eq_true, Bool.or_eq_true, decide_eq_true_eq]
    rcases List.mem_cons.1 member with rfl | member
    · exact ⟨bounds.1, Or.inl bounds.2⟩
    · exact ⟨Nat.le_trans (first_le_of_ascends h member) bounds.1,
        Or.inr (ih (ascends_of_cons h) ⟨s, member, bounds⟩)⟩

end CodeRanges

/-! ## Maps of code points -/

/-- A run of code points from `first` to `last`, every `step`-th of which is mapped. The images
    run in parallel, from `image` on. -/
structure CodeRun where
  first : Nat
  last : Nat
  step : Nat
  image : Nat

/-- Whether a run maps a code point. -/
def CodeRun.covers (r : CodeRun) (n : Nat) : Bool :=
  r.first ≤ n && n ≤ r.last && (n - r.first) % r.step == 0

/-- The character that a list of runs, in ascending order, maps a character to; itself if no run
    maps it. -/
def CodeRun.apply : List CodeRun → Char → Char
  | [], c => c
  | r :: rs, c =>
    if c.toNat < r.first then c
    else if r.covers c.toNat then Char.ofNat (r.image + (c.toNat - r.first))
    else CodeRun.apply rs c

/-- A character either stays or is mapped by a run that covers it. -/
theorem CodeRun.apply_eq_or (rs : List CodeRun) (c : Char) :
    CodeRun.apply rs c = c ∨ ∃ r ∈ rs, r.covers c.toNat = true ∧
      CodeRun.apply rs c = Char.ofNat (r.image + (c.toNat - r.first)) := by
  induction rs with
  | nil => exact Or.inl rfl
  | cons r rs ih =>
    unfold CodeRun.apply
    split
    · exact Or.inl rfl
    · split
      · next covers => exact Or.inr ⟨r, List.mem_cons_self, covers, rfl⟩
      · rcases ih with same | ⟨s, member, mapped⟩
        · exact Or.inl same
        · exact Or.inr ⟨s, List.mem_cons_of_mem r member, mapped⟩

/-- A map of code points: its rows in ascending order of their code points. -/
abbrev CodeMap (α : Type) := List (Nat × α)

/-- What a map holds for a code point. -/
def CodeMap.find? {α : Type} : CodeMap α → Nat → Option α
  | [], _ => none
  | (n, x) :: rows, code =>
    if code < n then none else if code = n then some x else CodeMap.find? rows code

theorem CodeMap.mem_of_find? {α : Type} {rows : CodeMap α} {code : Nat} {x : α}
    (h : CodeMap.find? rows code = some x) : (code, x) ∈ rows := by
  induction rows with
  | nil => simp [CodeMap.find?] at h
  | cons row rows ih =>
    unfold CodeMap.find? at h
    split at h
    · simp at h
    · split at h
      · next same =>
        simp only [Option.some.injEq] at h
        simp [same, ← h]
      · exact List.mem_cons_of_mem row (ih h)

/-- A map of code points, cut into pages: each page is found by the code point divided by 256,
    and each row by the remainder. -/
abbrev CodePages (α : Type) := CodeMap (CodeMap α)

/-- What a paged map holds for a character. -/
def CodePages.find? {α : Type} (pages : CodePages α) (c : Char) : Option α :=
  (CodeMap.find? pages (c.toNat / 256)).bind fun page => CodeMap.find? page (c.toNat % 256)

end SoundLaw
