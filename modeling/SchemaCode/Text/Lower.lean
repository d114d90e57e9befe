import SchemaCode.Text.Cased
import SchemaCode.Text.Pairs

/-! A character goes to its lower case by itself, but a capital sigma that ends a word becomes `ς`. -/

namespace SchemaCode.Text

def lowerChar (c : Char) : List Char :=
  if c = 'İ' then ['i', '\u0307'] else [Char.ofNat (lowerCode c.toNat)]

def reachesCased (cs : List Char) : Bool :=
  match cs.dropWhile caseIgnorable.contains with
  | [] => false
  | c :: _ => cased.contains c

/-- A sigma ends a word if a letter stands before it and none after it; `before` is read from the
sigma outwards. -/
def endsWord (before after : List Char) : Bool := reachesCased before && !reachesCased after

def lowerAfter : (before : List Char) → List Char → List Char
  | _, [] => []
  | before, c :: rest =>
    let low := if c = 'Σ' && endsWord before rest then ['ς'] else lowerChar c
    low ++ lowerAfter (c :: before) rest

def lower (s : String) : String := String.ofList (lowerAfter [] s.toList)

def lowerFirst (s : String) : String :=
  match s.toList with
  | [] => ""
  | c :: rest => String.ofList (lowerChar c ++ rest)

end SchemaCode.Text
