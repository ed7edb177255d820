/-
  SoundLaw.Proofs.Notation.VowelGroup

  The class of the vowels, written as a group. Where each `V` outside of braces gives way to
  `{aeiou}`, the halves, the options and the position of a notation are cut out as before. A segment
  is then prepared as before around these places, for none of the letters of the group joins its
  neighbours (`forall₂_pieces_prepared`), and read as before too: a placeholder takes the group of
  the vowels where a vowel slot was (`ReadsAlike`). So it is parsed to the same slots but for these
  (`agree_parse`).
-/
import Mathlib.Data.List.Infix
import SoundLaw.Proofs.Notation.Brackets
import SoundLaw.Proofs.Notation.Dividers
import SoundLaw.Proofs.Notation.Halves
import SoundLaw.Variant.Alignment

namespace SoundLaw

/-! ## Vowels as a group -/

/-- The content of the group of the vowels. -/
def vowelLetters : Text := ['a', 'e', 'i', 'o', 'u']

/-- A character of a notation, where a `V` gives way to the group of the vowels. -/
def spellVowels (c : Char) : Text := if c = 'V' then '{' :: vowelLetters ++ ['}'] else [c]

/-- A notation with the group of the vowels for each `V`. -/
def Text.withVowelGroups (t : Text) : Text := t.flatMap spellVowels

/-- Every opening brace is followed by a closing one. -/
def Text.Closes (t : Text) : Prop := ∀ front content, t = front ++ '{' :: content → '}' ∈ content

/-- No `V` comes after an opening brace without a closing one between them. -/
def Text.KeepsVowelsOutside (t : Text) : Prop :=
  ∀ before after, t = before ++ 'V' :: after → before.Closes

instance (t : Text) : Decidable t.Closes :=
  decidable_of_iff (∀ s ∈ t.tails, s.head? = some '{' → '}' ∈ s.tail) <| by
    constructor
    · rintro h front content rfl
      exact h _ ((List.mem_tails _ _).2 (List.suffix_append front _)) rfl
    · intro h s ends opening
      obtain ⟨front, rfl⟩ := (List.mem_tails s t).1 ends
      cases s with
      | nil => cases opening
      | cons c content => exact h front content (by rw [Option.some.inj opening])

instance (t : Text) : Decidable t.KeepsVowelsOutside :=
  decidable_of_iff (∀ s ∈ t.inits, s.getLast? = some 'V' → Text.Closes s.dropLast) <| by
    constructor
    · rintro h before after rfl
      have closes := h (before ++ ['V']) ((List.mem_inits _ _).2 ⟨after, by simp⟩) (by simp)
      rwa [List.dropLast_concat] at closes
    · intro h s begins vowel
      obtain ⟨before, rfl⟩ := List.getLast?_eq_some_iff.1 vowel
      obtain ⟨after, rfl⟩ := (List.mem_inits _ t).1 begins
      rw [List.dropLast_concat]
      exact h before after (by simp)

theorem spellVowels_vowel : spellVowels 'V' = '{' :: vowelLetters ++ ['}'] := rfl

theorem spellVowels_of_ne {c : Char} (other : c ≠ 'V') : spellVowels c = [c] := if_neg other

@[simp] theorem withVowelGroups_nil : Text.withVowelGroups [] = [] := rfl

@[simp] theorem withVowelGroups_cons (c : Char) (t : Text) :
    Text.withVowelGroups (c :: t) = spellVowels c ++ t.withVowelGroups := rfl

@[simp] theorem withVowelGroups_append (a b : Text) :
    Text.withVowelGroups (a ++ b) = a.withVowelGroups ++ b.withVowelGroups :=
  List.flatMap_append

theorem withVowelGroups_of_notMem {t : Text} (absent : 'V' ∉ t) : t.withVowelGroups = t := by
  induction t with
  | nil => rfl
  | cons c t ih =>
    obtain ⟨other, absent⟩ := not_or.1 (mt List.mem_cons.2 absent)
    rw [withVowelGroups_cons, spellVowels_of_ne (Ne.symm other), ih absent, List.singleton_append]

theorem head?_withVowelGroups (t : Text) :
    t.withVowelGroups.head? = t.head?.map fun c => if c = 'V' then '{' else c := by
  cases t with
  | nil => rfl
  | cons c t =>
    by_cases vowel : c = 'V'
    · simp [spellVowels, vowel]
    · simp [spellVowels, vowel]

theorem getLast?_withVowelGroups (t : Text) :
    t.withVowelGroups.getLast? = t.getLast?.map fun c => if c = 'V' then '}' else c := by
  rcases List.eq_nil_or_concat t with rfl | ⟨u, c, rfl⟩
  · rfl
  · by_cases vowel : c = 'V'
    · simp [spellVowels, vowel, vowelLetters]
    · simp [spellVowels, vowel]

section Ends

variable {sign : Char} (foreign : sign ∉ 'V' :: spellVowels 'V')

include foreign

/-- A sign that is not in a group of the vowels is not written at an end by one. -/
theorem map_ite_vowel_eq_some_iff {brace : Char} (listed : brace ∈ spellVowels 'V')
    (o : Option Char) :
    (o.map fun c => if c = 'V' then brace else c) = some sign ↔ o = some sign := by
  obtain ⟨notVowel, notInGroup⟩ := not_or.1 (mt List.mem_cons.2 foreign)
  rw [Option.map_eq_some_iff]
  constructor
  · rintro ⟨c, rfl, same⟩
    split at same
    · exact absurd (same ▸ listed) notInGroup
    · rw [same]
  · rintro rfl
    exact ⟨sign, rfl, if_neg notVowel⟩

theorem head?_withVowelGroups_eq_some_iff (t : Text) :
    t.withVowelGroups.head? = some sign ↔ t.head? = some sign := by
  rw [head?_withVowelGroups, map_ite_vowel_eq_some_iff foreign (by decide)]

theorem getLast?_withVowelGroups_eq_some_iff (t : Text) :
    t.withVowelGroups.getLast? = some sign ↔ t.getLast? = some sign := by
  rw [getLast?_withVowelGroups, map_ite_vowel_eq_some_iff foreign (by decide)]

end Ends

theorem withVowelGroups_eq_nil_iff {t : Text} : t.withVowelGroups = [] ↔ t = [] := by
  rw [← List.head?_eq_none_iff, head?_withVowelGroups, Option.map_eq_none_iff,
    List.head?_eq_none_iff]

theorem Text.KeepsVowelsOutside.mono {s t : Text} (h : t.KeepsVowelsOutside) (part : s <:+: t) :
    s.KeepsVowelsOutside := by
  obtain ⟨x, y, rfl⟩ := part
  rintro before after rfl front content rfl
  exact h (x ++ (front ++ '{' :: content)) (after ++ y) (by simp) (x ++ front) content (by simp)

/-! ## Halves and options -/

theorem split_append_of_notMem {separator : Char} {a b : Text} (absent : separator ∉ a)
    {first : Text} {parts : List Text} (split : b.split separator = first :: parts) :
    Text.split separator (a ++ b) = (a ++ first) :: parts := by
  induction a with
  | nil => exact split
  | cons c a ih =>
    obtain ⟨other, absent⟩ := not_or.1 (mt List.mem_cons.2 absent)
    rw [List.cons_append, Text.split, if_neg (Ne.symm other), ih absent]
    rfl

/-- A separator that does not occur in the group of the vowels cuts a text as before. -/
theorem split_withVowelGroups {separator : Char} (foreign : separator ∉ 'V' :: spellVowels 'V')
    (t : Text) :
    t.withVowelGroups.split separator = (t.split separator).map Text.withVowelGroups := by
  obtain ⟨notVowel, notInGroup⟩ := not_or.1 (mt List.mem_cons.2 foreign)
  induction t with
  | nil => rfl
  | cons c t ih =>
    rw [withVowelGroups_cons, Text.split]
    split
    · next same =>
      rw [spellVowels_of_ne (same ▸ notVowel), List.singleton_append, Text.split, if_pos same, ih]
      rfl
    · next other =>
      have absent : separator ∉ spellVowels c := by
        by_cases vowel : c = 'V'
        · exact vowel ▸ notInGroup
        · rw [spellVowels_of_ne vowel, List.mem_singleton]
          exact Ne.symm other
      split
      · next none => exact absurd none (Text.split_ne_nil separator t)
      · next first parts split =>
        rw [split] at ih
        rw [split_append_of_notMem absent ih]
        rfl

theorem isBlank_vowelSigns : isBlank 'V' = false ∧ isBlank '{' = false ∧ isBlank '}' = false := by
  decide

theorem dropWhile_withVowelGroups (t : Text) :
    t.withVowelGroups.dropWhile isBlank = Text.withVowelGroups (t.dropWhile isBlank) := by
  induction t with
  | nil => rfl
  | cons c t ih =>
    by_cases vowel : c = 'V'
    · simp [spellVowels, vowel, isBlank_vowelSigns]
    · rw [withVowelGroups_cons, spellVowels_of_ne vowel, List.singleton_append]
      cases blank : isBlank c with
      | true => simp [blank, ih]
      | false => simp [blank, spellVowels_of_ne vowel]

theorem stripEnd_withVowelGroups (t : Text) :
    t.withVowelGroups.stripEnd = t.stripEnd.withVowelGroups := by
  rw [Text.stripEnd_eq, Text.stripEnd_eq]
  -- From the end: a `V` there ends the text as the closing brace of its group does.
  induction t using List.reverseRecOn with
  | nil => rfl
  | append_singleton t c ih =>
    rw [withVowelGroups_append, List.rdropWhile_concat]
    by_cases vowel : c = 'V'
    · have ends : Text.withVowelGroups t ++ Text.withVowelGroups [c] =
          (Text.withVowelGroups t ++ '{' :: vowelLetters) ++ ['}'] := by simp [spellVowels, vowel]
      rw [ends, List.rdropWhile_concat, ← ends, vowel]
      simp [isBlank_vowelSigns]
    · have same : Text.withVowelGroups [c] = [c] := by simp [spellVowels_of_ne vowel]
      rw [same, List.rdropWhile_concat, ih]
      split
      · rfl
      · rw [withVowelGroups_append, same]

theorem strip_withVowelGroups (t : Text) : t.withVowelGroups.strip = t.strip.withVowelGroups := by
  rw [Text.strip, Text.strip, dropWhile_withVowelGroups, stripEnd_withVowelGroups]

theorem unbracketed_cons_of_ne {c : Char} (other : c ≠ '[') (t : Text) :
    Text.unbracketed (c :: t) = c :: t := by
  unfold Text.unbracketed
  split
  · next same => exact absurd (List.cons.inj same).1 other
  · rfl

theorem unbracketed_withVowelGroups (t : Text) :
    t.withVowelGroups.unbracketed = t.unbracketed.withVowelGroups := by
  cases t with
  | nil => rfl
  | cons c t =>
    by_cases opens : c = '['
    · have foreign : ']' ∉ 'V' :: spellVowels 'V' := by decide
      have closes := getLast?_withVowelGroups_eq_some_iff foreign t
      have brackets (u : Text) : Text.unbracketed ('[' :: u) =
          if u.getLast? = some ']' then u.dropLast else '[' :: u := rfl
      rw [opens, withVowelGroups_cons, spellVowels_of_ne (by decide), List.singleton_append,
        brackets, brackets]
      simp only [closes]
      split
      · next last =>
        obtain ⟨u, rfl⟩ := List.getLast?_eq_some_iff.1 last
        simp [spellVowels_of_ne (c := ']') (by decide)]
      · simp [spellVowels_of_ne (c := '[') (by decide)]
    · rw [unbracketed_cons_of_ne opens, withVowelGroups_cons]
      by_cases vowel : c = 'V'
      · rw [vowel, spellVowels_vowel]
        exact unbracketed_cons_of_ne (by decide) _
      · rw [spellVowels_of_ne vowel]
        exact unbracketed_cons_of_ne opens _

theorem stripBrackets_withVowelGroups (t : Text) :
    t.withVowelGroups.stripBrackets = t.stripBrackets.withVowelGroups := by
  rw [Text.stripBrackets, Text.stripBrackets, strip_withVowelGroups, unbracketed_withVowelGroups,
    strip_withVowelGroups]

theorem options_withVowelGroups (half : Text) :
    half.withVowelGroups.options = half.options.map Text.withVowelGroups := by
  rw [Text.options, Text.options, split_withVowelGroups (by decide), List.map_map, List.map_map]
  exact List.map_congr_left fun part _ => stripBrackets_withVowelGroups part

/-! ## Braces -/

theorem pieces_append {a : Text} (closes : a.Closes) (b : Text) :
    pieces (a ++ b) = pieces a ++ pieces b := by
  -- By the length of `a`, of which a group takes several characters.
  induction length : a.length using Nat.strong_induction_on generalizing a with
  | _ n ih =>
    cases a with
    | nil => rw [pieces]; rfl
    | cons c t =>
      have suffix {u v : Text} (split : c :: t = u ++ v) : v.Closes := by
        rintro front content rfl
        exact closes (u ++ front) content (by simp [split])
      rw [List.length_cons] at length
      by_cases opening : c = '{'
      · obtain ⟨content, rest, rfl, first⟩ :=
          List.eq_append_cons_of_mem (closes [] t (by rw [opening]; rfl))
        have later := ih rest.length (by rw [← length]; simp; omega)
          (suffix (u := c :: content ++ ['}']) (by simp)) rfl
        have whole : c :: (content ++ '}' :: rest) ++ b = '{' :: content ++ '}' :: (rest ++ b) := by
          simp [opening]
        have alone : c :: (content ++ '}' :: rest) = '{' :: content ++ '}' :: rest := by
          rw [opening, List.cons_append]
        rw [whole, pieces_group first, later, alone, pieces_group first]
        rfl
      · -- A closing brace without an opening one before it is a piece by itself.
        rw [List.cons_append, pieces_cons opening, pieces_cons opening,
          ih t.length (by omega) (suffix (u := [c]) rfl) rfl]
        rfl

theorem closes_filter_isBrace (t : Text) : Text.Closes (t.filter isBrace) ↔ t.Closes := by
  constructor
  · rintro h front content rfl
    have closing := h (front.filter isBrace) (content.filter isBrace)
      (by simp [List.filter_append, isBrace])
    exact List.mem_of_mem_filter closing
  · intro h front content split
    obtain ⟨x, y, rfl, _, inside⟩ := List.filter_eq_append_iff.1 split
    obtain ⟨y, z, rfl, _, _, rfl⟩ := List.filter_eq_cons_iff.1 inside
    exact List.mem_filter.2 ⟨h (x ++ y) z (by simp), rfl⟩

/-- Preparing a text moves no brace. -/
theorem Text.Closes.prepared {t : Text} (h : t.Closes) : t.prepared.Closes := by
  rwa [← closes_filter_isBrace, filter_isBrace_prepared, closes_filter_isBrace]

theorem pieces_append_of_noBrace {a : Text} (noBrace : ∀ c ∈ a, c ≠ '{') (b : Text) :
    pieces (a ++ b) = a.map .plain ++ pieces b := by
  induction a with
  | nil => rfl
  | cons c a ih =>
    obtain ⟨here, later⟩ := List.forall_mem_cons.1 noBrace
    rw [List.cons_append, pieces_cons here, ih later]
    rfl

/-- A piece, or the group of the vowels in place of a `V`. -/
inductive Piece.Alike : Piece → Piece → Prop
  | same (piece : Piece) : Alike piece piece
  | vowels : Alike (.plain 'V') (.braced vowelLetters)

theorem isSeparate_vowelSigns : ∀ c ∈ 'V' :: spellVowels 'V', IsSeparate c := by
  have checked : (('V' :: spellVowels 'V').all fun c => !isMark c && decompose c == [c] &&
      c.toNat / 256 != 0x11 && !isDigraphLetter c) = true := by decide +kernel
  intro c member
  have checked := List.all_eq_true.1 checked c member
  simp only [Bool.and_eq_true, Bool.not_eq_true', beq_iff_eq, bne_iff_ne] at checked
  exact ⟨⟨checked.1.1.1, checked.1.1.2, checked.1.2⟩, checked.2⟩

/-- A text as the marks that it begins with and the rest. -/
theorem exists_marks_append (u : Text) : ∃ marks rest : Text, u = marks ++ rest ∧
    (∀ m ∈ marks, isMark m = true) ∧ ∀ c ∈ rest.head?, isMark c = false := by
  refine ⟨u.takeWhile isMark, u.dropWhile isMark, List.takeWhile_append_dropWhile.symm,
    List.all_eq_true.1 List.all_takeWhile, fun c hc => ?_⟩
  have head := List.head?_dropWhile_not isMark u
  rwa [Option.mem_def.1 hc] at head

theorem isMark_head?_withVowelGroups {t : Text} (letter : ∀ c ∈ t.head?, isMark c = false) :
    ∀ c ∈ t.withVowelGroups.head?, isMark c = false := by
  rw [head?_withVowelGroups]
  intro c hc
  obtain ⟨d, hd, rfl⟩ := Option.map_eq_some_iff.1 hc
  split
  · exact (isSeparate_vowelSigns '{' (by decide)).letter
  · exact letter d hd

/-- What stands for a vowel is prepared to its own piece, and the marks after it to theirs. -/
theorem pieces_prepared_vowel {letters a marks rest : Text} {piece : Piece}
    (filled : letters ≠ []) (signs : ∀ c ∈ letters, c ∈ 'V' :: spellVowels 'V')
    (alone : ∀ t, pieces (letters ++ t) = piece :: pieces t) (closes : a.Closes)
    (marked : ∀ m ∈ marks, isMark m = true) (letter : ∀ c ∈ rest.head?, isMark c = false) :
    pieces (Text.prepared (a ++ letters ++ marks ++ rest)) =
      pieces a.prepared ++ piece :: (marks.nfd.map .plain ++ pieces rest.prepared) := by
  have noBrace : ∀ m ∈ marks.nfd, m ≠ '{' := by
    rintro m hm rfl
    have mark := isMark_of_mem_nfd marked '{' hm
    simp [(isSeparate_vowelSigns '{' (by decide)).letter] at mark
  have separate : ∀ c ∈ letters, IsSeparate c := fun c hc => isSeparate_vowelSigns c (signs c hc)
  rw [prepared_append_dividers filled separate marked a letter, List.append_assoc,
    List.append_assoc, pieces_append closes.prepared, alone, pieces_append_of_noBrace noBrace]

/-- A segment with groups for its vowels is prepared to the same pieces but for these. -/
theorem forall₂_pieces_prepared {t : Text} (outside : t.KeepsVowelsOutside) :
    List.Forall₂ Piece.Alike (pieces t.prepared) (pieces t.withVowelGroups.prepared) := by
  have same (ps : List Piece) : List.Forall₂ Piece.Alike ps ps :=
    List.forall₂_same.2 fun piece _ => .same piece
  -- By the length: what is left after the first `V` and its marks is shorter.
  induction length : t.length using Nat.strong_induction_on generalizing t with
  | _ n ih =>
    by_cases vowel : 'V' ∈ t
    · obtain ⟨a, u, rfl, first⟩ := List.eq_append_cons_of_mem vowel
      obtain ⟨marks, rest, rfl, marked, letter⟩ := exists_marks_append u
      have later := ih rest.length (by rw [← length]; simp; omega)
        (outside.mono ⟨a ++ 'V' :: marks, [], by simp⟩) rfl
      have noVowel : 'V' ∉ marks := fun member =>
        absurd (marked 'V' member) (by simp [(isSeparate_vowelSigns 'V' List.mem_cons_self).letter])
      have before : a ++ 'V' :: (marks ++ rest) = a ++ ['V'] ++ marks ++ rest := by simp
      have after : Text.withVowelGroups (a ++ 'V' :: (marks ++ rest)) =
          a ++ spellVowels 'V' ++ marks ++ rest.withVowelGroups := by
        simp [withVowelGroups_of_notMem first, withVowelGroups_of_notMem noVowel]
      have single (v : Text) : pieces (['V'] ++ v) = .plain 'V' :: pieces v :=
        pieces_cons (by decide) v
      have group (v : Text) : pieces (spellVowels 'V' ++ v) = .braced vowelLetters :: pieces v := by
        rw [spellVowels_vowel, List.append_assoc]
        exact pieces_group (by decide) v
      rw [after, before,
        pieces_prepared_vowel (by decide) (by simp) single (outside a _ rfl) marked letter,
        pieces_prepared_vowel (by decide) (fun _ => List.mem_cons_of_mem 'V') group
          (outside a _ rfl) marked (isMark_head?_withVowelGroups letter)]
      exact List.rel_append (same _) (.cons .vowels (List.rel_append (same _) later))
    · rw [withVowelGroups_of_notMem vowel]
      exact same _

/-! ## Slots -/

/-- Two texts, each with the groups that its placeholders take, that are the same but for
    placeholders with the group of the vowels in place of a `V`. -/
inductive ReadsAlike : Text → List Text → Text → List Text → Prop
  | nil : ReadsAlike [] [] [] []
  | char {c : Char} {t u : Text} {groups others : List Text} (plain : c ≠ placeholder)
      (later : ReadsAlike t groups u others) : ReadsAlike (c :: t) groups (c :: u) others
  | group {content t u : Text} {groups others : List Text}
      (later : ReadsAlike t groups u others) :
      ReadsAlike (placeholder :: t) (content :: groups) (placeholder :: u) (content :: others)
  | vowels {t u : Text} {groups others : List Text} (later : ReadsAlike t groups u others) :
      ReadsAlike ('V' :: t) groups (placeholder :: u) (vowelLetters :: others)

theorem ReadsAlike.append {t u content : Text} {groups others : List Text}
    (h : ReadsAlike t groups u others) (plain : placeholder ∉ content) :
    ReadsAlike (content ++ t) groups (content ++ u) others := by
  induction content with
  | nil => exact h
  | cons c content ih =>
    obtain ⟨other, plain⟩ := not_or.1 (mt List.mem_cons.2 plain)
    exact .char (Ne.symm other) (ih plain)

/-- Alike pieces leave texts that read alike. -/
theorem readsAlike_of_forall₂ {ps qs : List Piece} (alike : List.Forall₂ Piece.Alike ps qs)
    (absent : ∀ piece ∈ ps, placeholder ∉ piece.text) :
    ReadsAlike (ps.flatMap Piece.flattened)
      ((ps.filterMap Piece.content?).filter fun content => 1 < content.countUnits)
      (qs.flatMap Piece.flattened)
      ((qs.filterMap Piece.content?).filter fun content => 1 < content.countUnits) := by
  induction alike with
  | nil => exact .nil
  | @cons piece _ _ _ here _ ih =>
    obtain ⟨plain, others⟩ := List.forall_mem_cons.1 absent
    have later := ih others
    cases here with
    | same =>
      cases piece with
      | plain c => exact .char (fun same => plain (by simp [Piece.text, same])) later
      | braced content =>
        have inside : placeholder ∉ content := fun member => plain (by simp [Piece.text, member])
        by_cases several : 1 < content.countUnits
        · simpa [Piece.flattened, Piece.content?, several] using later.group
        · simpa [Piece.flattened, Piece.content?, several] using later.append inside
    | vowels =>
      -- Five units, so that a placeholder is left for the group.
      have several : 1 < vowelLetters.countUnits := by decide +kernel
      simpa [Piece.flattened, Piece.content?, List.filterMap_cons, several] using later.vowels

/-- Two symbols of the same literals, where only a wildcard is like a wildcard and only a deletion
    like a deletion. -/
structure Symbol.Alike (a b : Symbol) : Prop where
  literals : a.literals = b.literals
  wildcard : a = .wildcard ↔ b = .wildcard
  deletion : a = .deletion ↔ b = .deletion

/-- Slots of alike symbols with the same marks and the same coindex. -/
structure Slot.Alike (a b : Slot) : Prop where
  symbol : a.symbol.Alike b.symbol
  mark : a.mark = b.mark
  coindex : a.coindex = b.coindex

/-- Forms whose slots are alike. -/
def Form.Alike (f g : Form) : Prop := List.Forall₂ Slot.Alike f.slots g.slots

theorem Symbol.Alike.refl (a : Symbol) : a.Alike a := ⟨rfl, Iff.rfl, Iff.rfl⟩

/-- Any vowel is one of the group of the vowels. -/
theorem alike_vowel_group : Symbol.Alike .vowel (.group vowelLetters) where
  literals := by decide +kernel
  wildcard := by simp
  deletion := by simp

theorem Slot.Alike.attach {a b : Slot} (h : a.Alike b) (c : Char) :
    (a.attach c).Alike (b.attach c) where
  symbol := h.symbol
  mark := by rw [Slot.attach, Slot.attach, h.mark]
  coindex := by rw [Slot.attach, Slot.attach, h.coindex]

/-- A character that is no placeholder opens a slot without any group. -/
theorem exists_readSymbol_eq {c : Char} (plain : c ≠ placeholder) :
    ∃ symbol, ∀ groups, readSymbol groups c = .ok (symbol, groups) := by
  simp only [readSymbol, if_neg plain]
  by_cases vowel : c = 'V'
  · exact ⟨.vowel, fun _ => by rw [if_pos vowel]⟩
  by_cases wildcard : c = '-'
  · exact ⟨.wildcard, fun _ => by rw [if_neg vowel, if_pos wildcard]⟩
  by_cases deletion : c = 'ø'
  · exact ⟨.deletion, fun _ => by rw [if_neg vowel, if_neg wildcard, if_pos deletion]⟩
  · exact ⟨.literal c, fun _ => by rw [if_neg vowel, if_neg wildcard, if_neg deletion]⟩

/-- The character that opens a slot opens an alike one in a text that reads alike. -/
theorem ReadsAlike.openSlots {c d : Char} {t u : Text} {groups others : List Text}
    (h : ReadsAlike (c :: t) groups (d :: u) others) :
    isUnit c = isUnit d ∧ (isUnit c = false → c = d ∧ ReadsAlike t groups u others) ∧
      (isUnit c = true → ∃ a b left left', Symbol.Alike a b ∧ ReadsAlike t left u left' ∧
        openSlots groups c t = readSlots { symbol := a } left t ∧
        SoundLaw.openSlots others d u = readSlots { symbol := b } left' u) := by
  have units : isUnit placeholder = true ∧ isUnit 'V' = true := by decide +kernel
  cases h with
  | char plain later =>
    obtain ⟨symbol, read⟩ := exists_readSymbol_eq plain
    refine ⟨rfl, fun _ => ⟨rfl, later⟩, fun _ => ?_⟩
    refine ⟨symbol, symbol, _, _, .refl symbol, later, ?_, ?_⟩
    · rw [SoundLaw.openSlots, read]; rfl
    · rw [SoundLaw.openSlots, read]; rfl
  | group later =>
    refine ⟨rfl, fun attached => absurd attached (by simp [units]), fun _ => ?_⟩
    exact ⟨_, _, _, _, .refl _, later, rfl, rfl⟩
  | vowels later =>
    refine ⟨by rw [units.1, units.2], fun attached => ?_, fun _ => ?_⟩
    · exact absurd attached (by simp [units])
    exact ⟨.vowel, .group vowelLetters, _, _, alike_vowel_group, later, rfl, rfl⟩

/-- Texts that read alike are read as alike slots. -/
theorem ReadsAlike.agree_readSlots {t u : Text} {groups others : List Text}
    (h : ReadsAlike t groups u others) {a b : Slot} (alike : a.Alike b) :
    Agree (List.Forall₂ Slot.Alike) (readSlots a groups t) (readSlots b others u) := by
  induction t generalizing u groups others a b with
  | nil =>
    cases h
    exact .ok (.cons alike .nil)
  | cons c t ih =>
    obtain ⟨d, v, rfl⟩ : ∃ d v, u = d :: v := by
      cases h <;> exact ⟨_, _, rfl⟩
    obtain ⟨sameKind, attached, opened⟩ := h.openSlots
    cases unit : isUnit c with
    | false =>
      obtain ⟨rfl, later⟩ := attached unit
      rw [readSlots_of_not_isUnit unit, readSlots_of_not_isUnit unit]
      exact ih later (alike.attach c)
    | true =>
      obtain ⟨x, y, left, left', symbols, later, opens, opens'⟩ := opened unit
      rw [readSlots_of_isUnit unit, readSlots_of_isUnit (sameKind ▸ unit), opens, opens']
      have read := ih later (a := { symbol := x }) (b := { symbol := y }) ⟨symbols, rfl, rfl⟩
      exact read.map fun _ _ slots => .cons alike slots

theorem ReadsAlike.dropWhile {t u : Text} {groups others : List Text}
    (h : ReadsAlike t groups u others) :
    ReadsAlike (t.dropWhile isBlank) groups (u.dropWhile isBlank) others := by
  have visible : isBlank placeholder = false ∧ isBlank 'V' = false := by decide
  induction h with
  | nil => exact .nil
  | @char c t u groups others plain later ih =>
    cases blank : isBlank c with
    | true => simpa [blank] using ih
    | false => simpa [blank] using ReadsAlike.char plain later
  | group later _ => simpa [visible] using later.group
  | vowels later _ => simpa [visible] using later.vowels

theorem ReadsAlike.agree_segmentSlots {t u : Text} {groups others : List Text}
    (h : ReadsAlike t groups u others) :
    Agree (List.Forall₂ Slot.Alike) (segmentSlots groups t) (segmentSlots others u) := by
  have starts := h.dropWhile
  cases first : t.dropWhile isBlank with
  | nil =>
    rw [first] at starts
    have first' : u.dropWhile isBlank = [] := by
      generalize u.dropWhile isBlank = v at starts
      cases starts
      rfl
    rw [segmentSlots, segmentSlots, first, first']
    exact .ok .nil
  | cons c v =>
    rw [first] at starts
    obtain ⟨d, w, first'⟩ : ∃ d w, u.dropWhile isBlank = d :: w := by
      generalize u.dropWhile isBlank = x at starts
      cases starts <;> exact ⟨_, _, rfl⟩
    rw [first'] at starts
    obtain ⟨sameKind, _, opened⟩ := starts.openSlots
    rw [segmentSlots_of_cons first, segmentSlots_of_cons first', ← sameKind]
    cases unit : isUnit c with
    | false => exact .error
    | true =>
      obtain ⟨x, y, left, left', symbols, later, opens, opens'⟩ := opened unit
      simp only [if_true, opens, opens']
      exact later.agree_readSlots ⟨symbols, rfl, rfl⟩

/-- A segment with groups for its vowels is parsed exactly if the segment is, and to the same slots
    but for these groups. -/
theorem agree_parse {segment : Text} (absent : placeholder ∉ segment)
    (outside : segment.KeepsVowelsOutside) :
    Agree Form.Alike (Form.parse segment) (Form.parse segment.withVowelGroups) := by
  have alike := forall₂_pieces_prepared outside
  have stray : (pieces segment.withVowelGroups.prepared).any Piece.isStray =
      (pieces segment.prepared).any Piece.isStray := by
    generalize pieces segment.prepared = ps at alike
    generalize pieces segment.withVowelGroups.prepared = qs at alike
    induction alike with
    | nil => rfl
    | cons here _ ih =>
      rw [List.any_cons, List.any_cons, ih]
      cases here <;> rfl
  have reads : ReadsAlike segment.prepared.withoutGroups segment.prepared.groups
      segment.withVowelGroups.prepared.withoutGroups segment.withVowelGroups.prepared.groups := by
    rw [withoutGroups_eq, groups_eq, withoutGroups_eq, groups_eq]
    refine readsAlike_of_forall₂ alike fun piece member inside => absent ?_
    exact placeholder_mem_of_mem_prepared (mem_of_mem_pieces member placeholder inside)
  cases paired : (pieces segment.prepared).any Piece.isStray with
  | true =>
    rw [parse_of_stray paired, parse_of_stray (stray.trans paired)]
    exact .error
  | false =>
    rw [parse_of_paired paired, parse_of_paired (stray.trans paired)]
    exact reads.agree_segmentSlots.map fun _ _ slots => slots

end SoundLaw
