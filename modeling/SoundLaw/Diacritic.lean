/-
  SoundLaw.Diacritic

  Letters and their diacritics. In the decomposed form of a text, base letters and combining
  marks are separate characters: `base` keeps the former and `marks` the latter. A diacritic can
  also be named by its spacing form, such as the acute accent by `´`.
-/
import SoundLaw.Text.Mark
import SoundLaw.Text.NormalForm

namespace SoundLaw

/-! ## Base letters and marks -/

/-- The base letters of a text, decomposed. -/
def Text.base (t : Text) : Text := t.nfd.filter fun c => !isMark c

/-- The combining marks of a text, decomposed. -/
def Text.marks (t : Text) : Text := t.nfd.filter isMark

/-- Whether a text has a combining mark as it is written. -/
def Text.hasMark (t : Text) : Bool := t.any isMark

theorem Text.isMark_of_mem_marks {t : Text} {c : Char} (h : c ∈ t.marks) : isMark c = true :=
  (List.mem_filter.1 h).2

theorem Text.not_isMark_of_mem_base {t : Text} {c : Char} (h : c ∈ t.base) : isMark c = false := by
  simpa using (List.mem_filter.1 h).2

/-- A text without its marks, composed. -/
def Text.withoutMarks (t : Text) : Text := t.base.nfc

/-! ## Marks of vowels -/

/-- The marks that tell vowels apart: grave, acute, circumflex, tilde, macron, breve and
    diaeresis. -/
def vowelMarks : Text :=
  ['\u0300', '\u0301', '\u0302', '\u0303', '\u0304', '\u0306', '\u0308']

/-- A text without the marks of length, stress and quality. The marks of consonants stay. -/
def Text.withoutVowelMarks (t : Text) : Text :=
  Text.nfc (t.nfd.filter fun c => !vowelMarks.contains c)

/-! ## Spacing forms -/

/-- The combining marks with a spacing form, each before that form. -/
def spacingForms : List (Char × Char) := [
  ('\u0301', '´'), ('\u0300', '`'), ('\u0302', '^'), ('\u0303', '~'), ('\u0308', '¨'),
  ('\u0304', '¯'), ('\u0306', '˘'), ('\u0307', '˙'), ('\u0327', '¸'), ('\u030B', '˝'),
  ('\u030C', 'ˇ'), ('\u030A', '˚')]

/-- A single mark in its spacing form, if it has one; any other text as it is. -/
def Text.spaced (t : Text) : Text :=
  match t with
  | [m] => [(spacingForms.lookup m).getD m]
  | _ => t

/-- A single spacing form as the mark that it stands for; any other text as it is. -/
def Text.combining (t : Text) : Text :=
  match t with
  | [s] => [((spacingForms.find? (·.2 == s)).map (·.1)).getD s]
  | _ => t

/-- The diacritic of a letter: what follows its first character in decomposed form, or all of it
    if it starts with a mark. Nothing for a letter without marks. -/
def Text.diacritic (t : Text) : Text :=
  match t.nfd with
  | [] => []
  | c :: rest =>
    if isMark c then Text.spaced (c :: rest)
    else if Text.hasMark rest then Text.spaced rest
    else []

/-- A text with a diacritic put on its last letter, composed. -/
def Text.withDiacritic (t diacritic : Text) : Text := Text.nfc (t ++ diacritic.combining)

end SoundLaw
