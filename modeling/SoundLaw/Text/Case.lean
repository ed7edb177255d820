/-
  SoundLaw.Text.Case

  Letter case: lower and upper case of texts, and the comparison of letters that leaves case
  aside. Lower case looks at the neighbours of one letter only, the Greek capital sigma, which has
  a form of its own at the end of a word.
-/
import SoundLaw.Text.CaseContext
import SoundLaw.Text.CaseMapping

namespace SoundLaw

/-! ## Single letters -/

/-- The lower-case letter of a character; itself if it has none. -/
def lowerLetter (c : Char) : Char := CodeRun.apply lowerRuns c

/-- The upper case of a character, for some letters more than one character. -/
def upperLetter (c : Char) : Text :=
  match CodeMap.find? upperExpansions c.toNat with
  | some codes => codes.map Char.ofNat
  | none => [CodeRun.apply upperRuns c]

/-- Whether a character is an upper-case letter. -/
def isUpper (c : Char) : Bool :=
  upperLetters.any fun (first, last, step) =>
    first ≤ c.toNat && c.toNat ≤ last && (c.toNat - first) % step == 0

/-- Whether two characters are the same letter, case aside. This also takes together letters
    that differ in form alone and share a capital, such as `s` and the long `ſ`. -/
def sameLetter (a b : Char) : Bool :=
  let a := lowerLetter a
  let b := lowerLetter b
  a == b || ((CodeMap.find? sameCapital b.toNat).getD []).contains a.toNat

theorem sameLetter_self (c : Char) : sameLetter c c = true := by
  simp [sameLetter]

theorem lowerLetter_sigma : lowerLetter 'Σ' = 'σ' := by decide +kernel

theorem lowerLetter_dotted : lowerLetter 'İ' = 'i' := by decide +kernel

/-- Whether a letter is the same letter as those only whose lower case it is, whatever their
    neighbours. -/
def isPlainLetter (k : Char) : Bool :=
  lowerLetter k == k && (CodeMap.find? sameCapital k.toNat).isNone && k != 'σ' && k != 'i'

theorem lowerLetter_eq_of_sameLetter {c k : Char} (plain : isPlainLetter k = true)
    (same : sameLetter c k = true) : lowerLetter c = k := by
  simp only [isPlainLetter, Bool.and_eq_true, beq_iff_eq, Option.isNone_iff_eq_none] at plain
  obtain ⟨⟨⟨small, alone⟩, _⟩, _⟩ := plain
  simpa [sameLetter, small, alone] using same

theorem ne_of_sameLetter {c k : Char} (plain : isPlainLetter k = true)
    (same : sameLetter c k = true) : c ≠ 'Σ' ∧ c ≠ 'İ' := by
  have small := lowerLetter_eq_of_sameLetter plain same
  simp only [isPlainLetter, Bool.and_eq_true, bne_iff_ne] at plain
  constructor
  · rintro rfl
    exact plain.1.2 (small ▸ lowerLetter_sigma)
  · rintro rfl
    exact plain.2 (small ▸ lowerLetter_dotted)

/-! ## Texts -/

/-- Whether a text goes on with a cased letter, after what casing passes over. -/
def continuesWord (t : Text) : Bool :=
  match t.dropWhile isCaseIgnorable with
  | [] => false
  | c :: _ => isCased c

/-- The lower case of one character between the text before it, latest character first, and the
    text after it. A sigma that ends a word is written `ς`, and `İ` keeps its dot as a mark. -/
def lowerBetween (before : Text) (c : Char) (after : Text) : Text :=
  if c = 'Σ' then
    if continuesWord before && !continuesWord after then ['ς'] else ['σ']
  else if c = 'İ' then ['i', '\u0307']
  else [lowerLetter c]

/-- The lower case of a text that follows `before`, latest character first. -/
def lowerFrom (before : Text) : Text → Text
  | [] => []
  | c :: t => lowerBetween before c t ++ lowerFrom (c :: before) t

/-- The lower case of a text. -/
def Text.lower (t : Text) : Text := lowerFrom [] t

/-- The first character in upper case, the rest as it is. -/
def Text.capitalize : Text → Text
  | [] => []
  | c :: t => upperLetter c ++ t

/-- Whether the first character is an upper-case letter. -/
def Text.isCapitalized : Text → Bool
  | [] => false
  | c :: _ => isUpper c

@[simp] theorem Text.lower_nil : Text.lower [] = [] := rfl

/-- Without `Σ` and `İ`, lower case goes letter by letter. -/
theorem lowerFrom_eq_map (before t : Text) (sigma : 'Σ' ∉ t) (dotted : 'İ' ∉ t) :
    lowerFrom before t = t.map lowerLetter := by
  induction t generalizing before with
  | nil => rfl
  | cons c t ih =>
    simp only [List.mem_cons, not_or] at sigma dotted
    simp [lowerFrom, lowerBetween, Ne.symm sigma.1, Ne.symm dotted.1, ih _ sigma.2 dotted.2]

end SoundLaw
