/-
  SoundLaw.Text.NormalForm

  The two canonical normal forms of a text. The decomposed form writes each letter before its
  marks and sorts the marks by combining class; the composed form then joins letters and marks
  to single characters wherever one exists.
-/
import SoundLaw.Text.CanonicalMapping
import SoundLaw.Text.CombiningClass
import SoundLaw.Text.Composite

namespace SoundLaw

/-! ## Hangul syllables

A Hangul syllable is a leading consonant, a vowel and perhaps a trailing consonant. Its code
point is computed from theirs: 19 leading consonants from `0x1100`, 21 vowels from `0x1161`, and
27 trailing consonants after `0x11A7`, which stands for none. -/

/-- The letters of a Hangul syllable; nothing for any other character. -/
def hangulLetters? (c : Char) : Option Text :=
  if 0xAC00 ≤ c.toNat && c.toNat < 0xAC00 + 19 * 21 * 28 then
    let s := c.toNat - 0xAC00
    let lead := Char.ofNat (0x1100 + s / (21 * 28))
    let vowel := Char.ofNat (0x1161 + s % (21 * 28) / 28)
    if s % 28 = 0 then some [lead, vowel]
    else some [lead, vowel, Char.ofNat (0x11A7 + s % 28)]
  else none

/-- The Hangul syllable of a leading consonant and a vowel, or of an open syllable and a trailing
    consonant. -/
def hangulSyllable? (first second : Char) : Option Char :=
  let f := first.toNat
  let s := second.toNat
  if 0x1100 ≤ f && f < 0x1100 + 19 && 0x1161 ≤ s && s < 0x1161 + 21 then
    some (Char.ofNat (0xAC00 + ((f - 0x1100) * 21 + (s - 0x1161)) * 28))
  else if 0xAC00 ≤ f && f < 0xAC00 + 19 * 21 * 28 && (f - 0xAC00) % 28 == 0
      && 0x11A7 < s && s < 0x11A7 + 28 then
    some (Char.ofNat (f + (s - 0x11A7)))
  else none

/-! ## The decomposed form -/

/-- The full canonical decomposition of a character. -/
def decompose (c : Char) : Text :=
  ((hangulLetters? c).or (canonicalMapping? c)).getD [c]

/-- Puts a character in front of a text in canonical order: a mark moves behind the marks of
    lower class that follow it, and stops at the next starter. -/
def insertMark (c : Char) : Text → Text
  | [] => [c]
  | d :: t =>
    if combiningClass d ≠ 0 ∧ combiningClass d < combiningClass c then d :: insertMark c t
    else c :: d :: t

/-- Sorts the marks after each starter by class, and keeps the order within a class. -/
def reorderMarks (t : Text) : Text := t.foldr insertMark []

/-- The canonical decomposed form of a text. -/
def Text.nfd (t : Text) : Text := reorderMarks (t.flatMap decompose)

@[simp] theorem Text.nfd_nil : Text.nfd [] = [] := rfl

/-- Canonical order moves characters and neither adds nor drops one. -/
theorem insertMark_perm (c : Char) (t : Text) : (insertMark c t).Perm (c :: t) := by
  induction t with
  | nil => exact List.Perm.refl _
  | cons d t ih =>
    unfold insertMark
    split
    · exact (ih.cons d).trans (List.Perm.swap c d t)
    · exact List.Perm.refl _

theorem reorderMarks_perm (t : Text) : (reorderMarks t).Perm t := by
  induction t with
  | nil => exact List.Perm.refl _
  | cons c t ih => exact (insertMark_perm c (reorderMarks t)).trans (ih.cons c)

/-! ## The composed form -/

/-- The character that two characters compose to. -/
def composite? (first second : Char) : Option Char :=
  (hangulSyllable? first second).or (primaryComposite? first second)

/-- Whether no mark among `kept`, latest first, stands between the starter and `c`: marks of
    its class or a higher one do. -/
def reachesStarter (kept : Text) (c : Char) : Bool :=
  match kept with
  | [] => true
  | k :: _ => combiningClass k < combiningClass c

/-- Composes what follows a starter onto it. `kept` holds the marks that stay since the starter,
    latest first. -/
def composeOnto (starter : Char) (kept : Text) : Text → Text
  | [] => starter :: kept.reverse
  | c :: t =>
    match if reachesStarter kept c then composite? starter c else none with
    | some joined => composeOnto joined kept t
    | none =>
      if combiningClass c = 0 then starter :: kept.reverse ++ composeOnto c [] t
      else composeOnto starter (c :: kept) t

/-- Composes a text in canonical order. -/
def composeMarks : Text → Text
  | [] => []
  | c :: t => composeOnto c [] t

/-- The canonical composed form of a text. -/
def Text.nfc (t : Text) : Text := composeMarks t.nfd

@[simp] theorem Text.nfc_nil : Text.nfc [] = [] := rfl

end SoundLaw
