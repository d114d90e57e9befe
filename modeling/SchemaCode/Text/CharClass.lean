/-! Sets of characters, written as the sorted list of the code points at which membership changes. -/

namespace SchemaCode.Text

/-- A set of characters: code points below the first change are outside, those from the first change
up to the second are inside, and so on. -/
structure CharClass where
  changes : List Nat

namespace CharClass

def side : List Nat → Nat → Bool → Bool
  | [], _, inside => inside
  | x :: xs, n, inside => if n < x then inside else side xs n (!inside)

def contains (k : CharClass) (c : Char) : Bool := side k.changes c.toNat false

end CharClass

end SchemaCode.Text
