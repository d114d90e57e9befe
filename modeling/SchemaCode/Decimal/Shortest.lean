/-! The shortest decimal text that reads back as the same floating-point number; of several, the nearest to it. -/

namespace SchemaCode.Decimal

/-- The number `mantissa * 2 ^ exponent`. `nearBelow` tells whether the next number below is only half
as far away as the next one above. -/
structure Binary where
  mantissa : Nat
  exponent : Int
  nearBelow : Bool

def fractionSpan : Nat := 4503599627370496

def signBit : Nat := 9223372036854775808

def Binary.ofBits (bits : Nat) : Binary :=
  let fraction : Nat := bits % fractionSpan
  let biased : Nat := bits / fractionSpan % 2048
  if biased == 0 then ⟨fraction, -1074, false⟩
  else ⟨fractionSpan + fraction, biased - 1075, fraction == 0 && biased != 1⟩

structure Digits where
  digits : Nat
  exponent : Int
  deriving DecidableEq

/-- Four times the number, as a fraction: neighbours and interval ends are whole numbers over the same
denominator. -/
def Binary.quadruple (b : Binary) : Nat × Nat :=
  (4 * b.mantissa * Nat.pow 2 b.exponent.toNat, Nat.pow 2 (-b.exponent).toNat)

def leadingExponent (num den : Nat) : Int :=
  let guess : Int := (Nat.toDigits 10 num).length - (Nat.toDigits 10 den).length
  if den * Nat.pow 10 guess.toNat ≤ num * Nat.pow 10 (-guess).toNat then guess else guess - 1

def Binary.rounds (b : Binary) (k : Nat) (unit : Int) : Bool :=
  let (num, den) := b.quadruple
  let step := Nat.pow 2 b.exponent.toNat
  let value := 4 * k * Nat.pow 10 unit.toNat * den
  let scale := Nat.pow 10 (-unit).toNat
  let low := (num - (if b.nearBelow then step else 2 * step)) * scale
  let high := (num + 2 * step) * scale
  if b.mantissa % 2 == 0 then low ≤ value && value ≤ high else low < value && value < high

def Digits.ofGrid (k : Nat) (unit : Int) : Digits := ⟨k, unit + (Nat.toDigits 10 k).length - 1⟩

def nearest (top bottom : Nat) : Nat :=
  let below := top / bottom
  let twice := 2 * (top % bottom)
  if twice < bottom || (twice == bottom && below % 2 == 0) then below else below + 1

def Binary.digitsWith? (b : Binary) (count : Nat) : Option Digits :=
  let (num, den) := b.quadruple
  let lead := leadingExponent num (4 * den)
  let unit := lead - (count - 1 : Nat)
  let top := num * Nat.pow 10 (-unit).toNat
  let bottom := 4 * den * Nat.pow 10 unit.toNat
  let below := top / bottom
  match b.rounds below unit, b.rounds (below + 1) unit with
  | true, false => some (.ofGrid below unit)
  | false, true => some (.ofGrid (below + 1) unit)
  | true, true => some (.ofGrid (nearest top bottom) unit)
  | false, false => none

def Binary.shortest (b : Binary) : Digits :=
  ((List.range 17).findSome? fun n => b.digitsWith? (n + 1)).getD ⟨b.mantissa, 0⟩

/-- How decimals are written: first-digit exponents from `leastPlain` to `mostPlain` without an
exponent part. -/
structure Layout where
  leastPlain : Int
  mostPlain : Int

def Digits.text (d : Digits) : List Char :=
  ((Nat.toDigits 10 d.digits).reverse.dropWhile (· == '0')).reverse

def plain (digits : List Char) (exponent : Int) : List Char :=
  if exponent < 0 then ['0', '.'] ++ List.replicate (-exponent - 1).toNat '0' ++ digits
  else
    let whole := exponent.toNat + 1
    let fraction := digits.drop whole
    digits.take whole ++ List.replicate (whole - digits.length) '0' ++ ['.'] ++
      (if fraction.isEmpty then ['0'] else fraction)

def scientific (digits : List Char) (exponent : Int) : List Char :=
  let fraction := digits.drop 1
  digits.take 1 ++ (if fraction.isEmpty then [] else '.' :: fraction) ++
    ['e', if exponent < 0 then '-' else '+'] ++ Nat.toDigits 10 exponent.natAbs

def Layout.render (l : Layout) (d : Digits) : List Char :=
  if l.leastPlain ≤ d.exponent && d.exponent ≤ l.mostPlain then plain d.text d.exponent
  else scientific d.text d.exponent

def Layout.float (l : Layout) (x : Float) : String :=
  let bits := x.toBits.toNat
  let sign := if bits < signBit then [] else ['-']
  let magnitude := bits % signBit
  String.ofList (sign ++ if magnitude == 0 then ['0', '.', '0']
    else l.render (Binary.ofBits magnitude).shortest)

end SchemaCode.Decimal
