/-
  SoundLaw.Match

  Finding where a variant applies. Its steps are bound to successive phonemes of the word, from
  the leftmost place that its position allows. Steps with the same coindex must be bound to
  phonemes with the same key.
-/
import SoundLaw.Phoneme
import SoundLaw.Variant

namespace SoundLaw

/-! ## Literals against phonemes -/

/-- The key of the phoneme that a literal stands for. -/
def Text.literalKey (literal : Text) : Text := (literal.fold DigraphTable.rules).base.lower

/-- The marks of a literal, decomposed. -/
def Text.literalMarks (literal : Text) : Text := (literal.fold DigraphTable.rules).marks

/-- Whether a phoneme has all of these marks. -/
def Phoneme.hasMarks (p : Phoneme) (marks : Text) : Bool := marks.nfd.all (p.marks.contains ·)

/-- Whether a literal matches a phoneme: they have the same key, and the phoneme has every mark of
    the literal. -/
def Phoneme.isMatchedBy (p : Phoneme) (literal : Text) : Bool :=
  literal.literalKey == p.key && p.hasMarks literal.literalMarks

/-- The literals of a step that match a phoneme: their indices and numbers of marks. -/
def Step.candidates (s : Step) (p : Phoneme) : List (Nat × Nat) :=
  s.find.zipIdx.filterMap fun (literal, i) =>
    if p.isMatchedBy literal then some (i, literal.literalMarks.length) else none

/-- Of the candidates with the most marks, the first one. -/
def mostMarked : List (Nat × Nat) → Option (Nat × Nat)
  | [] => none
  | candidate :: rest =>
    match mostMarked rest with
    | some best => if candidate.2 < best.2 then some best else some candidate
    | none => some candidate

/-- The index of the literal by which a step matches a phoneme. -/
def Step.choose? (s : Step) (p : Phoneme) : Option Nat := (mostMarked (s.candidates p)).map (·.1)

/-! ## Binding -/

/-- A step bound to a phoneme of the word, by one of its literals. A step that matches nothing has
    no phoneme. -/
structure Binding where
  step : Step
  phoneme : Option Phoneme := none
  choice : Nat := 0
  deriving DecidableEq, Repr

/-- The keys of the phonemes bound under each coindex so far. -/
abbrev Captures := List (Int × Text)

/-- Captures the key of a phoneme under a coindex, or checks it against the one captured there. -/
def Captures.bind? (captures : Captures) (coindex : Option Int) (key : Text) : Option Captures :=
  match coindex with
  | none => some captures
  | some n =>
    match captures.lookup n with
    | some captured => if captured = key then some captures else none
    | none => some (captures ++ [(n, key)])

/-- Binds steps to the phonemes that a word goes on with. -/
def bindSteps (captures : Captures) : List Step → List Phoneme → Option (List Binding × Captures)
  | [], _ => some ([], captures)
  | s :: steps, ps =>
    if s.consumes then
      match ps with
      | [] => none
      | p :: ps => do
        let choice ← s.choose? p
        guard (p.hasMarks s.oldMark)
        let captures ← captures.bind? s.oldCoindex p.key
        let (bindings, captures) ← bindSteps captures steps ps
        return ({ step := s, phoneme := some p, choice } :: bindings, captures)
    else do
      let (bindings, captures) ← bindSteps captures steps ps
      return ({ step := s } :: bindings, captures)

/-! ## Matches -/

/-- A match of a variant: the phonemes from `start` to before `stop`. -/
structure Match where
  start : Nat
  stop : Nat
  bindings : List Binding
  captures : Captures
  deriving DecidableEq, Repr

/-- Binds a variant to a word from a phoneme on. -/
def Variant.bindAt (v : Variant) (ps : List Phoneme) (start : Nat) : Option Match := do
  let (bindings, captures) ← bindSteps [] v.steps (ps.drop start)
  return { start, stop := start + bindings.countP (·.phoneme.isSome), bindings, captures }

/-- The places where a match may start in a word of `length` phonemes, from left to right. -/
def Position.starts (position : Position) (length : Nat) : List Nat :=
  match position with
  | initial => [0]
  | medial => List.range' 1 (length - 1)
  | final | any => List.range (length + 1)

/-- Whether a match may stop at a place in a word of `length` phonemes. -/
def Position.allowsStop (position : Position) (length stop : Nat) : Bool :=
  match position with
  | initial | any => true
  | medial => stop < length
  | final => stop == length

/-- The leftmost match of a variant that its position allows. -/
def Variant.findMatch? (v : Variant) (ps : List Phoneme) : Option Match :=
  (v.position.starts ps.length).findSome? fun start =>
    (v.bindAt ps start).filter fun m => v.position.allowsStop ps.length m.stop

end SoundLaw
