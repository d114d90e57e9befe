namespace SchemaCode.Json

inductive Number where
  | integer (n : Int)
  | float (x : Float)

def Number.toFloat : Number → Float
  | .integer n => if n < 0 then -n.natAbs.toUInt64.toFloat else n.natAbs.toUInt64.toFloat
  | .float x => x

inductive Scalar where
  | null
  | bool (b : Bool)
  | number (n : Number)
  | string (s : String)

/-- The members of an object stand in the order of the text, repeated keys included. -/
inductive Value where
  | scalar (s : Scalar)
  | array (items : List Value)
  | object (members : List (String × Value))

def member? (members : List (String × Value)) (key : String) : Option Value :=
  (members.reverse.find? (·.1 == key)).map (·.2)

end SchemaCode.Json
