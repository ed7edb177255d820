/-
  SoundLaw.Notation.Slot

  The slots of rule notation. Each half of a rule is a row of slots: a phoneme, a group of
  alternatives, any vowel, the rest of the word, or nothing at all, with the diacritics and the
  coindex that follow it.
-/
import SoundLaw.Text.Quoted

namespace SoundLaw

/-- What a slot stands for. -/
inductive Symbol
  /-- One phoneme, as one character. -/
  | literal (phoneme : Char)
  /-- One of several phonemes, as written between braces. -/
  | group (content : Text)
  /-- One of the vowels. -/
  | vowel
  /-- The rest of the word on this side. -/
  | wildcard
  /-- No phoneme. -/
  | deletion
  deriving DecidableEq, Repr

namespace Symbol

/-- The name of a kind of slot. -/
def name : Symbol → String
  | literal _ => "literal"
  | group _ => "group"
  | vowel => "vowel"
  | wildcard => "wildcard"
  | deletion => "deletion"

/-- The text of a slot, empty for the kinds that need none. -/
def text : Symbol → Text
  | literal c => [c]
  | group content => content
  | vowel | wildcard | deletion => []

/-- Whether a slot stands for a phoneme of the word. -/
def isPhoneme : Symbol → Bool
  | literal _ | group _ | vowel => true
  | wildcard | deletion => false

end Symbol

/-- A slot of a parsed segment. -/
structure Slot where
  symbol : Symbol
  /-- The combining marks that follow the symbol. -/
  mark : Text := []
  /-- The number that ties a slot of the new form to one of the old form. -/
  coindex : Option Nat := none
  deriving DecidableEq, Repr

/-- How messages show a slot. -/
def Slot.describe (s : Slot) : String :=
  "Slot(kind=<SlotKind." ++ s.symbol.name.toUpper ++ ": '" ++ s.symbol.name ++ "'>, text="
    ++ String.ofList s.symbol.text.quoted ++ ", mark=" ++ String.ofList s.mark.quoted
    ++ ", coindex=" ++ (match s.coindex with | some n => toString n | none => "None") ++ ")"

end SoundLaw
