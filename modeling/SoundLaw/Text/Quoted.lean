/-
  SoundLaw.Text.Quoted

  The quoted form in which messages show a text: between apostrophes, or between double quotes
  where that saves an escape. Unprintable characters are shown by their code.
-/
import SoundLaw.Text.Printable

namespace SoundLaw

/-- The digit of a number below 16. -/
def hexDigit (n : Nat) : Char :=
  if n < 10 then Char.ofNat ('0'.toNat + n) else Char.ofNat ('a'.toNat + (n - 10))

/-- A number in hexadecimal, of exactly `width` digits. -/
def hexDigits : Nat → Nat → Text
  | 0, _ => []
  | width + 1, n => hexDigits width (n / 16) ++ [hexDigit (n % 16)]

/-- The escape that shows a character by its code, in two, four or eight digits. -/
def codeEscape (c : Char) : Text :=
  if c.toNat < 0x100 then '\\' :: 'x' :: hexDigits 2 c.toNat
  else if c.toNat < 0x10000 then '\\' :: 'u' :: hexDigits 4 c.toNat
  else '\\' :: 'U' :: hexDigits 8 c.toNat

/-- A character inside quotation marks. -/
def quoteChar (mark c : Char) : Text :=
  if c = mark || c = '\\' then ['\\', c]
  else if c = '\t' then ['\\', 't']
  else if c = '\n' then ['\\', 'n']
  else if c = '\r' then ['\\', 'r']
  else if isPrintable c then [c]
  else codeEscape c

/-- The quotation mark for a text: the double one only if it has an apostrophe and no double
    quote. -/
def Text.quotationMark (t : Text) : Char :=
  if '\'' ∈ t ∧ '"' ∉ t then '"' else '\''

/-- The quoted form of a text. -/
def Text.quoted (t : Text) : Text :=
  let mark := t.quotationMark
  mark :: t.flatMap (quoteChar mark) ++ [mark]

end SoundLaw
