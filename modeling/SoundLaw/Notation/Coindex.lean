/-
  SoundLaw.Notation.Coindex

  Coindices: subscript digits that tie slots of a rule together.
-/
import SoundLaw.Text.Basic

namespace SoundLaw

/-- The value of a subscript digit. -/
def subscriptValue? (c : Char) : Option Nat :=
  if 0x2080 ≤ c.toNat && c.toNat ≤ 0x2089 then some (c.toNat - 0x2080) else none

/-- Whether a character is a subscript digit. -/
def isSubscript (c : Char) : Bool := (subscriptValue? c).isSome

/-- Whether a text is a single subscript digit. -/
def Text.isSubscriptDigit : Text → Bool
  | [c] => isSubscript c
  | _ => false

/-- A text with its subscript digits in normal position. -/
def Text.unsubscripted (t : Text) : Text :=
  t.map fun c => match subscriptValue? c with
    | some n => Char.ofNat ('0'.toNat + n)
    | none => c

end SoundLaw
