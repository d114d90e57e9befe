import SchemaCode.Json.Value

/-! The fields of an entry are found by their keys in an object, and by their positions in a list. -/

namespace SchemaCode

open Json (Value)

namespace Json.Value

def string? : Value → Option String
  | .scalar (.string s) => some s
  | _ => none

def bool? : Value → Option Bool
  | .scalar (.bool b) => some b
  | _ => none

def float? : Value → Option Float
  | .scalar (.number n) => some n.toFloat
  | _ => none

def isNull : Value → Bool
  | .scalar .null => true
  | _ => false

def orNull {α : Type} (read : Value → Option α) (v : Value) : Option (Option α) :=
  if v.isNull then some none else (read v).map some

end Json.Value

inductive Fields where
  | keyed (members : List (String × Value))
  | positional (items : List Value)

structure FieldPlace where
  position : Nat
  keys : List String

namespace Fields

def ofValue? : Value → Option Fields
  | .object members => some (.keyed members)
  | .array items => some (.positional items)
  | .scalar _ => none

def fits (f : Fields) (count : Nat) : Bool :=
  match f with
  | .keyed _ => true
  | .positional items => items.length ≤ count

/-- The value of a field, if there is one; none at all for an object with two spellings of it. -/
def get (f : Fields) (place : FieldPlace) : Option (Option Value) :=
  match f with
  | .positional items => some items[place.position]?
  | .keyed members =>
    match place.keys.filterMap (Json.member? members) with
    | [] => some none
    | [v] => some (some v)
    | _ => none

def required {α : Type} (f : Fields) (place : FieldPlace) (read : Value → Option α) : Option α :=
  match f.get place with
  | some (some v) => read v
  | _ => none

def optional {α : Type} (f : Fields) (place : FieldPlace) (default : α) (read : Value → Option α) :
    Option α :=
  match f.get place with
  | some (some v) => read v
  | some none => some default
  | none => none

end Fields

end SchemaCode
