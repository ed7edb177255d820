/-
  SoundLaw.Record

  Records: rules as they are written down, field by field, with values of any kind. A valid record
  has a name and a notation, and in each of its fields a value of the right kind.
-/
import SoundLaw.Condition
import SoundLaw.Text.Quoted

namespace SoundLaw

/-! ## Values -/

/-- The value of a field. -/
inductive Value
  | null
  | flag (value : Bool)
  | number (value : Int)
  | text (value : Text)
  | list (items : List Value)
  | fields (members : List (Text × Value))
  | condition (value : Condition)
  /-- A value of another kind, of which only the truth is known. -/
  | other (truth : Bool)
  deriving Inhabited

namespace Value

/-- Whether a value counts as true: it is neither null nor false nor zero nor empty. -/
def isTrue : Value → Bool
  | null => false
  | flag b => b
  | number n => n != 0
  | text t => !t.isEmpty
  | list items => !items.isEmpty
  | fields members => !members.isEmpty
  | condition _ => true
  | other truth => truth

/-- Whether a value is null. -/
def isNull : Value → Bool
  | null => true
  | _ => false

/-- Whether a value is a text. -/
def isText : Value → Bool
  | text _ => true
  | _ => false

/-- Whether a value is a whole number. A truth value is none. -/
def isNumber : Value → Bool
  | number _ => true
  | _ => false

/-- The number as which a value is compared with others: a truth value counts as one or zero. -/
def measure? : Value → Option Int
  | number n => some n
  | flag b => some (if b then 1 else 0)
  | _ => none

mutual

/-- How a value is described: a text in quotation marks. -/
def describe : Value → String
  | null => "None"
  | flag b => if b then "True" else "False"
  | number n => toString n
  | text t => String.ofList t.quoted
  | list items => "[" ++ ", ".intercalate (describeItems items) ++ "]"
  | fields members => "\x7b" ++ ", ".intercalate (describeMembers members) ++ "\x7d"
  | condition c => String.ofList c.name
  | other _ => "..."

/-- How the items of a list are described. -/
def describeItems : List Value → List String
  | [] => []
  | v :: items => v.describe :: describeItems items

/-- How the members of a value with fields are described. -/
def describeMembers : List (Text × Value) → List String
  | [] => []
  | (key, v) :: members =>
    (String.ofList key.quoted ++ ": " ++ v.describe) :: describeMembers members

end

/-- A value as it is written out: a text as it is, and the others as they are described. -/
def plain : Value → String
  | text t => String.ofList t
  | v => v.describe

/-- The text of a value; nothing for other kinds of values. -/
def asText : Value → Text
  | text t => t
  | _ => []

end Value

/-! ## Fields -/

/-- The fields of a rule. -/
inductive Field
  | name
  | notated
  | orderId
  | description
  | url
  | skip
  | condition
  deriving DecidableEq, Repr

namespace Field

/-- The fields in their order. -/
def all : List Field := [name, notated, orderId, description, url, skip, condition]

/-- The key of a field in a record. -/
def key : Field → Text
  | name => "name".toList
  | notated => "notation".toList
  | orderId => "order_id".toList
  | description => "description".toList
  | url => "url".toList
  | skip => "skip".toList
  | condition => "condition".toList

/-- The field of a key. -/
def ofKey? (key : Text) : Option Field := all.find? (·.key == key)

/-- Whether a record must have a field. -/
def isRequired : Field → Bool
  | name | notated => true
  | _ => false

/-- Whether a value is of the right kind for a field. A name must not be empty, and a notation
    must have an arrow. -/
def admits : Field → Value → Bool
  | name, .text t => !t.isEmpty
  | notated, .text t => t.contains '>'
  | orderId, .text _ | orderId, .null => true
  | description, .text _ => true
  | url, .text _ | url, .null => true
  | skip, .flag _ => true
  | condition, .condition _ | condition, .null => true
  | _, _ => false

end Field

/-! ## Records -/

/-- A record: the keys and values of its fields. -/
abbrev Record := List (Text × Value)

namespace Record

/-- The value of a field in a record. -/
def get? (r : Record) (field : Field) : Option Value := r.lookup field.key

/-- Whether a record is the valid record of a rule. -/
def isValid (r : Record) : Bool :=
  (Field.all.all fun field => !field.isRequired || (r.get? field).isSome) &&
    r.all fun (key, value) => (Field.ofKey? key).any (·.admits value)

end Record

end SoundLaw
