/-
  SoundLaw.Notation.Form

  Parsed segments. A segment is prepared by folding its digraphs and decomposing its diacritics,
  and then read from left to right: a mark or a coindex belongs to the slot before it, and every
  other character opens a slot.
-/
import SoundLaw.Notation.Group
import SoundLaw.Spelling.Folded

namespace SoundLaw

/-! ## Slots -/

/-- The symbol that a character opens, and the groups that are left after it. A placeholder takes
    the next group. -/
def readSymbol (groups : List Text) (c : Char) : Except Error (Symbol × List Text) :=
  if c = placeholder then
    match groups with
    | [] => .error .missingGroup
    | group :: groups => .ok (.group group, groups)
  else if c = 'V' then .ok (.vowel, groups)
  else if c = '-' then .ok (.wildcard, groups)
  else if c = 'ø' then .ok (.deletion, groups)
  else .ok (.literal c, groups)

/-- The slots of a text that follows an open slot. -/
def readSlots (slot : Slot) (groups : List Text) : Text → Except Error (List Slot)
  | [] => .ok [slot]
  | c :: t =>
    if isBlank c then readSlots slot groups t
    else if isMark c then readSlots { slot with mark := slot.mark ++ [c] } groups t
    else match subscriptValue? c with
      | some n => readSlots { slot with coindex := some n } groups t
      | none => do
        let (symbol, groups) ← readSymbol groups c
        let slots ← readSlots { symbol } groups t
        return slot :: slots

/-- The slots of a segment without braces. A mark or a coindex must not come first. -/
def segmentSlots (groups : List Text) (segment : Text) : Except Error (List Slot) :=
  match segment.dropWhile isBlank with
  | [] => .ok []
  | c :: t =>
    if isMark c || isSubscript c then .error (.malformed (.dangling c segment))
    else do
      let (symbol, groups) ← readSymbol groups c
      readSlots { symbol } groups t

/-! ## Forms -/

/-- A parsed segment: its slots, and the contents of its groups in order. -/
structure Form where
  slots : List Slot
  groups : List Text
  deriving DecidableEq, Repr

namespace Form

/-- The marks of the slots that have any, with the places of the slots. -/
def marks (f : Form) : List (Nat × Text) :=
  f.slots.zipIdx.filterMap fun (slot, i) => if slot.mark.isEmpty then none else some (i, slot.mark)

/-- The coindices of the slots that have one, with the places of the slots. -/
def coindices (f : Form) : List (Nat × Nat) :=
  f.slots.zipIdx.filterMap fun (slot, i) => slot.coindex.map fun n => (i, n)

end Form

/-- A text with its digraphs folded as in rule notation and its diacritics decomposed. -/
def Text.prepared (t : Text) : Text := Text.nfd (Text.fold DigraphTable.rules t.nfc)

/-- Parses one segment of either half of a rule. -/
def Form.parse (segment : Text) : Except Error Form :=
  let prepared := segment.prepared
  if (pieces prepared).any Piece.isStray then .error (.malformed (.braces segment))
  else do
    let slots ← segmentSlots prepared.groups prepared.withoutGroups
    return { slots, groups := prepared.groups }

end SoundLaw
