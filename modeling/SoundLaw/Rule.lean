/-
  SoundLaw.Rule

  Rules: named sound changes, compiled once. The first variant that matches changes the word, if
  the condition of the rule holds for it.
-/
import SoundLaw.Record
import SoundLaw.Substitution
import SoundLaw.Variant.Compiled

namespace SoundLaw

/-- A sound change. Its details are kept as they were given, and only a record is checked. -/
structure Rule where
  name : Text
  notated : Text
  /-- The key by which a rule set orders its rules. -/
  orderId : Value := .null
  description : Value := .text []
  url : Value := .null
  /-- Whether the rule is off unless it is switched on. -/
  skip : Value := .flag false
  condition : Value := .null
  variants : List Variant

namespace Rule

/-! ## Rules and records -/

/-- The rule of a record, compiled but not checked. Fields that the record lacks have their
    defaults, and only the fields of rules may be given. -/
def ofFields (r : Record) : Except Error Rule := do
  match r.get? .name, r.get? .notated with
  | some name, some notated =>
    if !r.all fun (key, _) => (Field.ofKey? key).isSome then .error .unknownField
    else if !notated.isText then .error .notAText
    else
      return {
        name := name.asText
        notated := notated.asText
        orderId := (r.get? .orderId).getD .null
        description := (r.get? .description).getD (.text [])
        url := (r.get? .url).getD .null
        skip := (r.get? .skip).getD (.flag false)
        condition := (r.get? .condition).getD .null
        variants := ← compile notated.asText }
  | _, _ => .error .missingField

/-- The rule of a valid record. -/
def ofRecord (r : Record) : Except Error Rule :=
  if r.isValid then ofFields r else .error .invalid

/-- All fields of a rule. -/
def fields (rule : Rule) : Record := [
  (Field.key .name, .text rule.name),
  (Field.key .notated, .text rule.notated),
  (Field.key .orderId, rule.orderId),
  (Field.key .description, rule.description),
  (Field.key .url, rule.url),
  (Field.key .skip, rule.skip),
  (Field.key .condition, rule.condition)]

/-- The record of a rule, which must be valid. -/
def toRecord (rule : Rule) : Except Error Record :=
  if rule.fields.isValid then .ok rule.fields else .error .invalid

/-- How a rule is described. -/
def describe (rule : Rule) : String :=
  "Rule(name=" ++ String.ofList rule.name.quoted ++ ", notation="
    ++ String.ofList rule.notated.quoted ++ ", order_id=" ++ rule.orderId.describe ++ ")"

/-- A rule on one line: its order key, or a dash, its name and its notation. -/
def line (rule : Rule) : String :=
  (if rule.orderId.isTrue then rule.orderId.plain else "-") ++ " " ++ String.ofList rule.name
    ++ ": " ++ String.ofList rule.notated

/-- Two rules are the same sound change if they share name and notation. -/
def same (a b : Rule) : Bool := a.name == b.name && a.notated == b.notated

/-! ## Application -/

/-- The position of a rule, which all its variants share. -/
def position (rule : Rule) : Position := (rule.variants.head?.map Variant.position).getD .any

/-- Whether the condition of a rule holds for a word. -/
def appliesTo (rule : Rule) (word : Text) (vowels : VowelSystem) (compound : Bool) :
    Except Error Bool :=
  match rule.condition with
  | .null => .ok true
  | .condition c => .ok (c.holds (vowels.analyse word compound))
  | _ => .error .notACondition

/-- Applies a rule to a word. A word stays as it is if the condition does not hold or no variant
    matches. -/
def apply (rule : Rule) (word : Text) (convention : Option Convention) (vowels : VowelSystem)
    (compound : Bool) : Except Error Text := do
  if ← rule.appliesTo word vowels compound then
    return (← substituteFirst word convention rule.variants).getD word
  else return word

end Rule

end SoundLaw
