/-
  SoundLaw.Variant.Alignment

  Aligning an old and a new form, slot by slot. A wildcard has a wildcard opposite; a coindex of
  the new form occurs in the old form and belongs to a phoneme; and a slot becomes one literal at
  most, or as many as it matches.
-/
import SoundLaw.Notation.Form
import SoundLaw.Variant

namespace SoundLaw

/-! ## The literals of a slot -/

/-- The alternatives of a group that follows an open alternative. -/
def alternativesFrom (unit : Text) : Text → List Text
  | [] => [unit]
  | c :: t =>
    if isBlank c || isSubscript c then alternativesFrom unit t
    else if isMark c then alternativesFrom (unit ++ [c]) t
    else unit :: alternativesFrom [c] t

/-- The alternatives of a group: its phonemes, each with the marks that follow it. -/
def Text.alternatives (content : Text) : List Text :=
  match content.dropWhile fun c => isBlank c || isSubscript c with
  | [] => []
  | c :: t => alternativesFrom [c] t

/-- A phoneme of a parsed segment in the spelling of literals. -/
def Text.literal (unit : Text) : Text := unit.spelledOut.nfc

/-- The vowels that a vowel slot stands for. -/
def vowelClass : List Text := [['a'], ['e'], ['i'], ['o'], ['u']]

/-- The literals of a slot. -/
def Symbol.literals : Symbol → List Text
  | literal c => [Text.literal [c]]
  | group content => content.alternatives.map Text.literal
  | vowel => vowelClass
  | wildcard | deletion => []

/-! ## Steps -/

/-- Refuses a coindex on a slot that stands for no phoneme. -/
def Slot.checkCoindex (s : Slot) : Except Error PUnit :=
  match s.coindex with
  | some n =>
    if s.symbol.isPhoneme then .ok ⟨⟩ else .error (.malformed (.emptyCoindex n s.symbol))
  | none => .ok ⟨⟩

/-- The step that turns one slot into another, where the coindices `declared` may be written. -/
def Step.ofSlots (declared : List Nat) (old new : Slot) : Except Error Step := do
  old.checkCoindex
  new.checkCoindex
  if old.symbol = .wildcard ∧ new.symbol = .wildcard then
    return { find := [], replace := [], wildcard := true }
  else if old.symbol = .wildcard ∨ new.symbol = .wildcard then
    .error (.malformed (.loneWildcard old new))
  else
    let find := old.symbol.literals
    let replace := new.symbol.literals
    match new.coindex.filter (!declared.contains ·) with
    | some n => .error (.malformed (.undeclared n))
    | none =>
      if 1 < replace.length ∧ replace.length ≠ find.length then
        .error (.malformed (.alternatives find replace))
      else
        return {
          find, replace
          oldCoindex := old.coindex.map Int.ofNat
          newCoindex := new.coindex.map Int.ofNat
          oldMark := old.mark
          newMark := new.mark }

/-! ## Forms -/

/-- The steps that turn an old form into a new one. -/
def align (old new : Form) : Except Error (List Step) :=
  if old.slots.length ≠ new.slots.length then
    .error (.malformed (.lengths old.slots.length new.slots.length))
  else
    let declared := old.slots.filterMap Slot.coindex
    (old.slots.zip new.slots).mapM fun (oldSlot, newSlot) => Step.ofSlots declared oldSlot newSlot

end SoundLaw
