/-
  SoundLaw.RuleSet

  Rule sets: sound changes in the order in which a language underwent them. Rules are sorted by
  their order keys, those without one come last, and of rules with the same name the first one
  stays. Each rule can be switched on or off against its default.
-/
import SoundLaw.Rule

namespace SoundLaw

/-! ## Entries -/

/-- A rule of a set, and what it has been switched to, if that is not its default. -/
structure RuleSet.Entry where
  rule : Rule
  switched : Option Bool := none

/-- Whether a rule is on by default. -/
def Rule.isOnByDefault (rule : Rule) : Bool := !rule.skip.isTrue

/-- Whether a rule of a set is on. -/
def RuleSet.Entry.isOn (e : RuleSet.Entry) : Bool := e.switched.getD e.rule.isOnByDefault

/-- An entry switched on or off. Nothing is kept of a switch to the default. -/
def RuleSet.Entry.switch (e : RuleSet.Entry) (on : Bool) : RuleSet.Entry :=
  { e with switched := if on = e.rule.isOnByDefault then none else some on }

/-- A rule set. -/
structure RuleSet where
  name : Text
  entries : List RuleSet.Entry := []

/-- A rule set as it is written down. -/
structure SetRecord where
  name : Text
  rules : List Record

/-- Whether the name and all rules of a set are valid. -/
def SetRecord.isValid (s : SetRecord) : Bool := !s.name.isEmpty && s.rules.all Record.isValid

/-- What can be added to a rule set: a rule, or the record of one. -/
inductive Candidate
  | rule (rule : Rule)
  | record (fields : Record)
  /-- Anything else. -/
  | other

/-- The rule of a candidate, which must be valid. -/
def Candidate.toRule : Candidate → Except Error Rule
  | .rule r => .ok r
  | .record fields => if fields.isValid then Rule.ofRecord fields else .error .notARule
  | .other => .error .notARule

/-- A change that a rule made to a word. -/
structure Change where
  rule : Text
  orderId : Value
  description : Value
  before : Text
  after : Text

namespace RuleSet

/-! ## Views -/

/-- The rules of a set, in order. -/
def rules (s : RuleSet) : List Rule := s.entries.map Entry.rule

/-- The rules of a set that are off, in order. -/
def skipped (s : RuleSet) : List Rule := (s.entries.filter (!·.isOn)).map Entry.rule

/-- The entry of a name. -/
def find (s : RuleSet) (name : Text) : Except Error Entry :=
  match s.entries.find? (·.rule.name == name) with
  | some e => .ok e
  | none => .error (.unknownRule name s.name)

/-- How a rule set is described. -/
def describe (s : RuleSet) : String :=
  "RuleSet(name=" ++ String.ofList s.name.quoted ++ ", rules=["
    ++ ", ".intercalate (s.rules.map Rule.describe) ++ "])"

/-- The record of a rule set, which must be valid. -/
def toRecord (s : RuleSet) : Except Error SetRecord := do
  let record : SetRecord := { name := s.name, rules := ← s.rules.mapM Rule.toRecord }
  if record.isValid then return record else .error .invalid

/-! ## The order of rules -/

/-- The value by which a rule with an order key is sorted. Every key that counts as false is an
    empty text. -/
def sortKey (rule : Rule) : Value := if rule.orderId.isTrue then rule.orderId else .text []

/-- Whether the order keys of two rules can be compared: both are texts, or both count as numbers,
    or one rule has none. -/
def isComparable (a b : Rule) : Bool :=
  a.orderId.isNull || b.orderId.isNull || ((sortKey a).isText && (sortKey b).isText)
    || ((sortKey a).measure?.isSome && (sortKey b).measure?.isSome)

/-- Whether all order keys of rules can be compared. -/
def isSortable (rules : List Rule) : Bool :=
  decide (rules.Pairwise fun a b => isComparable a b = true)

/-- Whether a key is less than another one that it can be compared with. -/
def isLess (a b : Value) : Bool :=
  match a.measure?, b.measure? with
  | some m, some n => m < n
  | _, _ => a.asText < b.asText

/-- Whether a rule comes before another one by its order key. -/
def precedes (a b : Rule) : Bool :=
  match a.orderId.isNull, b.orderId.isNull with
  | false, true => true
  | false, false => isLess (sortKey a) (sortKey b)
  | true, _ => false

/-! ## Adding rules -/

/-- Inserts an entry behind all those that it does not precede. -/
def insertEntry (e : Entry) : List Entry → List Entry
  | [] => [e]
  | d :: entries =>
    if precedes e.rule d.rule then e :: d :: entries else d :: insertEntry e entries

/-- Whether a set has a rule of a name. -/
def hasRule (s : RuleSet) (name : Text) : Bool := s.entries.any (·.rule.name == name)

/-- Adds a rule at its place, unless there is one of its name. While order keys cannot be compared,
    rules are added at the end. -/
def insert (s : RuleSet) (rule : Rule) : RuleSet :=
  if s.hasRule rule.name then s
  else if isSortable (s.rules ++ [rule]) then
    { s with entries := insertEntry { rule } s.entries }
  else { s with entries := s.entries ++ [{ rule }] }

/-- Why a rule that is added does not come to its place, if there is a reason. -/
def insertFault? (s : RuleSet) (rule : Rule) : Option Error :=
  if s.hasRule rule.name || isSortable (s.rules ++ [rule]) then none else some .incomparable

/-- Adds a candidate, and says what went wrong. -/
def add (s : RuleSet) (c : Candidate) : RuleSet × Option Error :=
  match c.toRule with
  | .ok rule => (s.insert rule, s.insertFault? rule)
  | .error e => (s, some e)

/-- Whether a failure to add a candidate concerns that candidate alone. -/
def isPassedOver : Error → Bool
  | .missingGroup | .incomparable => false
  | _ => true

/-- Adds candidates in order and leaves out those that are no valid rules. A segment with more
    placeholders than groups stops it, and so do order keys that cannot be compared. -/
def addAll (s : RuleSet) : List Candidate → RuleSet × Option Error
  | [] => (s, none)
  | c :: candidates =>
    match s.add c with
    | (s, none) => addAll s candidates
    | (s, some e) => if isPassedOver e then addAll s candidates else (s, some e)

/-- A rule set of a name, with those of the candidates that are valid. -/
def ofCandidates (name : Text) (candidates : List Candidate) : Except Error RuleSet :=
  match addAll { name } candidates with
  | (s, none) => .ok s
  | (_, some e) => .error e

/-- The rule set of a record. -/
def ofRecord (record : SetRecord) : Except Error RuleSet :=
  ofCandidates record.name (record.rules.map .record)

/-! ## Switching rules -/

/-- Switches a rule on or off, or over if it is not said which. -/
def toggle (s : RuleSet) (name : Text) (on : Option Bool) : Except Error RuleSet := do
  let e ← s.find name
  let on := on.getD (!e.isOn)
  return { s with entries := s.entries.map fun e =>
    if e.rule.name == name then e.switch on else e }

/-- Toggles rules one after the other. -/
def toggleEach (s : RuleSet) (toggles : List (Text × Option Bool)) : Except Error RuleSet :=
  toggles.foldlM (fun s (name, on) => s.toggle name on) s

/-- Switches the rules of some names on, and then those of others off. -/
def select (s : RuleSet) (enabled disabled : List Text) : Except Error RuleSet :=
  s.toggleEach (enabled.map (·, some true) ++ disabled.map (·, some false))

/-- Changes the default of a rule; a switch that was made stays. -/
def setSkip (s : RuleSet) (name : Text) (skip : Value) : Except Error RuleSet := do
  let _ ← s.find name
  return { s with entries := s.entries.map fun e =>
    if e.rule.name == name then { e with rule := { e.rule with skip } } else e }

/-! ## A pass over a word -/

/-- Applies rules to a word in order, and lists the changes they make. -/
def pass (convention : Convention) (vowels : VowelSystem) (compound : Bool) (word : Text) :
    List Rule → Except Error (Text × List Change)
  | [] => .ok (word, [])
  | rule :: rules => do
    let after ← rule.apply word (some convention) vowels compound
    let (result, changes) ← pass convention vowels compound after rules
    if after = word then return (result, changes)
    else
      let change : Change :=
        { rule := rule.name
          orderId := rule.orderId
          description := rule.description
          before := word
          after }
      return (result, change :: changes)

/-- Applies the rules that are on to a word, all by the spelling convention of the word. -/
def apply (s : RuleSet) (word : Text) (vowels : VowelSystem) (compound : Bool) :
    Except Error (Text × List Change) :=
  pass (Convention.detect word) vowels compound word
    ((s.entries.filter Entry.isOn).map Entry.rule)

end RuleSet

end SoundLaw
