import SchemaCode.Json.Numeral
import SchemaCode.Json.Quoted

/-! The digits of a number are collected in a significand of 64 bits, and those that no longer fit are dropped. -/

namespace SchemaCode.Json

namespace Number

def isDigit (c : Char) : Bool := '0' ≤ c && c ≤ '9'

def digit (c : Char) : Nat := c.toNat - '0'.toNat

def startsDigit (s : List Char) : Bool :=
  match s with
  | [] => false
  | c :: _ => isDigit c

/-- Digits appended to `significand` while it fits `limit`: the result, how many, and the rest. -/
def collect (limit significand : Nat) : (taken : Nat) → List Char → Nat × Nat × List Char
  | taken, [] => (significand, taken, [])
  | taken, c :: rest =>
    let next := significand * 10 + digit c
    if isDigit c && next ≤ limit then collect limit next (taken + 1) rest
    else (significand, taken, c :: rest)

def dropDigits (s : List Char) : Nat × List Char :=
  ((s.takeWhile isDigit).length, s.dropWhile isDigit)

def largest64 : Nat := 18446744073709551615

def largestExponent : Nat := 2147483647

def largestNegated : Nat := 9223372036854775808

def finish (d : Numeral) (rest : List Char) : Outcome Number :=
  match d.toFloat? with
  | some x => .ok (.float x, rest)
  | none => .error (.here .numberOutOfRange rest)

/-- What becomes of an exponent that is too large to be counted: `rest` starts with its first digit
over the limit. -/
def hugeExponent (d : Numeral) (negative : Bool) (rest : List Char) : Outcome Number :=
  if d.significand != 0 && !negative then .error (.next .numberOutOfRange rest)
  else .ok (.float (if d.negative then -0.0 else 0.0), rest.dropWhile isDigit)

def exponentDigits (d : Numeral) (negative : Bool) (s : List Char) : Outcome Number :=
  match s with
  | [] => .error (.here .endInValue [])
  | c :: rest =>
    if !isDigit c then .error (.next .badNumber s)
    else
      let (n, _, rest) := collect largestExponent (digit c) 1 rest
      if startsDigit rest then hugeExponent d negative rest
      else finish { d with exponent := if negative then d.exponent - n else d.exponent + n } rest

def exponentPart (d : Numeral) (s : List Char) : Outcome Number :=
  match s with
  | '+' :: rest => exponentDigits d false rest
  | '-' :: rest => exponentDigits d true rest
  | rest => exponentDigits d false rest

def exponentOrEnd (d : Numeral) (s : List Char) : Outcome Number :=
  match s with
  | 'e' :: rest => exponentPart d rest
  | 'E' :: rest => exponentPart d rest
  | rest => finish d rest

def fractionPart (d : Numeral) (s : List Char) : Outcome Number :=
  match s with
  | [] => .error (.next .endInValue [])
  | c :: _ =>
    if !isDigit c then .error (.next .badNumber s)
    else
      let (significand, taken, rest) := collect largest64 d.significand 0 s
      exponentOrEnd { d with significand, exponent := d.exponent - taken } (dropDigits rest).2

def plain (negative : Bool) (n : Nat) : Number :=
  if !negative then .integer n
  else if n == 0 || n > largestNegated then .float (-n.toUInt64.toFloat)
  else .integer (-n)

def afterInteger (negative : Bool) (significand dropped : Nat) (s : List Char) : Outcome Number :=
  let d : Numeral := ⟨negative, significand, dropped⟩
  match s with
  | '.' :: rest => fractionPart d rest
  | 'e' :: rest => exponentPart d rest
  | 'E' :: rest => exponentPart d rest
  | rest => if dropped == 0 then .ok (plain negative significand, rest) else finish d rest

def readDigits (negative : Bool) (s : List Char) : Outcome Number :=
  match s with
  | [] => .error (.here .endInValue [])
  | '0' :: rest =>
    if startsDigit rest then .error (.next .badNumber rest) else afterInteger negative 0 0 rest
  | c :: rest =>
    if !isDigit c then .error (.next .badNumber s)
    else
      let (significand, _, rest) := collect largest64 (digit c) 1 rest
      let (dropped, rest) := dropDigits rest
      afterInteger negative significand dropped rest

def read (s : List Char) : Outcome Number :=
  match s with
  | '-' :: rest => readDigits true rest
  | rest => readDigits false rest

theorem length_collect_le (limit significand taken : Nat) (s : List Char) :
    (collect limit significand taken s).2.2.length ≤ s.length := by
  fun_induction collect limit significand taken s with
  | case1 => simp
  | case2 _ _ c rest _ _ ih => exact Nat.le_succ_of_le ih
  | case3 => simp

theorem length_dropDigits_le (s : List Char) : (dropDigits s).2.length ≤ s.length :=
  (List.dropWhile_sublist _).length_le

theorem length_finish {d : Numeral} {s rest : List Char} {n : Number}
    (h : finish d s = .ok (n, rest)) : rest.length ≤ s.length := by
  unfold finish at h
  split at h
  · simp only [Except.ok.injEq, Prod.mk.injEq] at h
    simp [← h.2]
  · cases h

theorem length_hugeExponent {d : Numeral} {negative : Bool} {s rest : List Char} {n : Number}
    (h : hugeExponent d negative s = .ok (n, rest)) : rest.length ≤ s.length := by
  unfold hugeExponent at h
  split at h
  · cases h
  · simp only [Except.ok.injEq, Prod.mk.injEq] at h
    exact h.2 ▸ (List.dropWhile_sublist _).length_le

theorem length_exponentDigits {d : Numeral} {negative : Bool} {s rest : List Char} {n : Number}
    (h : exponentDigits d negative s = .ok (n, rest)) : rest.length < s.length := by
  unfold exponentDigits at h
  split at h
  · cases h
  · rename_i c r
    have hc := length_collect_le largestExponent (digit c) 1 r
    split at h
    · cases h
    · dsimp only at h
      split at h
      · exact Nat.lt_succ_of_le (Nat.le_trans (length_hugeExponent h) hc)
      · exact Nat.lt_succ_of_le (Nat.le_trans (length_finish h) hc)

theorem length_exponentPart {d : Numeral} {s rest : List Char} {n : Number}
    (h : exponentPart d s = .ok (n, rest)) : rest.length < s.length := by
  unfold exponentPart at h
  split at h
  · exact Nat.lt_succ_of_lt (length_exponentDigits h)
  · exact Nat.lt_succ_of_lt (length_exponentDigits h)
  · exact length_exponentDigits h

theorem length_exponentOrEnd {d : Numeral} {s rest : List Char} {n : Number}
    (h : exponentOrEnd d s = .ok (n, rest)) : rest.length ≤ s.length := by
  unfold exponentOrEnd at h
  split at h
  · exact Nat.le_succ_of_le (Nat.le_of_lt (length_exponentPart h))
  · exact Nat.le_succ_of_le (Nat.le_of_lt (length_exponentPart h))
  · exact length_finish h

theorem length_fractionPart {d : Numeral} {s rest : List Char} {n : Number}
    (h : fractionPart d s = .ok (n, rest)) : rest.length ≤ s.length := by
  unfold fractionPart at h
  split at h
  · cases h
  · rename_i c r
    split at h
    · cases h
    · have hc := length_collect_le largest64 d.significand 0 (c :: r)
      exact Nat.le_trans (length_exponentOrEnd h) (Nat.le_trans (length_dropDigits_le _) hc)

theorem length_afterInteger {negative : Bool} {significand dropped : Nat} {s rest : List Char}
    {n : Number} (h : afterInteger negative significand dropped s = .ok (n, rest)) :
    rest.length ≤ s.length := by
  unfold afterInteger at h
  dsimp only at h
  split at h
  · exact Nat.le_succ_of_le (length_fractionPart h)
  · exact Nat.le_succ_of_le (Nat.le_of_lt (length_exponentPart h))
  · exact Nat.le_succ_of_le (Nat.le_of_lt (length_exponentPart h))
  · split at h
    · simp only [Except.ok.injEq, Prod.mk.injEq] at h
      simp [← h.2]
    · exact length_finish h

theorem length_readDigits {negative : Bool} {s rest : List Char} {n : Number}
    (h : readDigits negative s = .ok (n, rest)) : rest.length < s.length := by
  unfold readDigits at h
  split at h
  · cases h
  · split at h
    · cases h
    · exact Nat.lt_succ_of_le (length_afterInteger h)
  · split at h
    · cases h
    · exact Nat.lt_succ_of_le (Nat.le_trans (length_afterInteger h)
        (Nat.le_trans (length_dropDigits_le _) (length_collect_le _ _ _ _)))

theorem length_read {s rest : List Char} {n : Number} (h : read s = .ok (n, rest)) :
    rest.length < s.length := by
  unfold read at h
  split at h
  · exact Nat.lt_succ_of_lt (length_readDigits h)
  · exact length_readDigits h

def dropSign (s : List Char) : List Char :=
  match s with
  | '+' :: rest => rest
  | '-' :: rest => rest
  | rest => rest

def skipExponent (s : List Char) : Except Fault (List Char) :=
  let digits := dropSign s
  if startsDigit digits then .ok (digits.dropWhile isDigit) else .error (.next .badNumber digits)

def skipExponentOrEnd (s : List Char) : Except Fault (List Char) :=
  match s with
  | 'e' :: rest => skipExponent rest
  | 'E' :: rest => skipExponent rest
  | rest => .ok rest

def skipFraction (s : List Char) : Except Fault (List Char) :=
  if startsDigit s then skipExponentOrEnd (s.dropWhile isDigit) else .error (.next .badNumber s)

def skipAfterInteger (s : List Char) : Except Fault (List Char) :=
  match s with
  | '.' :: rest => skipFraction rest
  | rest => skipExponentOrEnd rest

def skipDigits (s : List Char) : Except Fault (List Char) :=
  match s with
  | '0' :: rest => if startsDigit rest then .error (.next .badNumber rest) else skipAfterInteger rest
  | s =>
    if startsDigit s then skipAfterInteger (s.dropWhile isDigit) else .error (.next .badNumber s)

def skip (s : List Char) : Except Fault (List Char) :=
  match s with
  | '-' :: rest => skipDigits rest
  | rest => skipDigits rest

theorem length_dropWhile_lt {s : List Char} (h : startsDigit s = true) :
    (s.dropWhile isDigit).length < s.length := by
  cases s with
  | nil => cases h
  | cons c rest =>
    have hc : isDigit c = true := h
    rw [List.dropWhile_cons_of_pos hc]
    exact Nat.lt_succ_of_le (List.dropWhile_sublist _).length_le

theorem length_dropSign_le (s : List Char) : (dropSign s).length ≤ s.length := by
  unfold dropSign
  split <;> simp

theorem length_skipExponent {s rest : List Char} (h : skipExponent s = .ok rest) :
    rest.length < s.length := by
  unfold skipExponent at h
  dsimp only at h
  split at h
  · next hd =>
    cases h
    exact Nat.lt_of_lt_of_le (length_dropWhile_lt hd) (length_dropSign_le s)
  · cases h

theorem length_skipExponentOrEnd {s rest : List Char} (h : skipExponentOrEnd s = .ok rest) :
    rest.length ≤ s.length := by
  unfold skipExponentOrEnd at h
  split at h
  · exact Nat.le_succ_of_le (Nat.le_of_lt (length_skipExponent h))
  · exact Nat.le_succ_of_le (Nat.le_of_lt (length_skipExponent h))
  · cases h
    exact Nat.le_refl _

theorem length_skipFraction {s rest : List Char} (h : skipFraction s = .ok rest) :
    rest.length ≤ s.length := by
  unfold skipFraction at h
  split at h
  · exact Nat.le_trans (length_skipExponentOrEnd h) (List.dropWhile_sublist _).length_le
  · cases h

theorem length_skipAfterInteger {s rest : List Char} (h : skipAfterInteger s = .ok rest) :
    rest.length ≤ s.length := by
  unfold skipAfterInteger at h
  split at h
  · exact Nat.le_succ_of_le (length_skipFraction h)
  · exact length_skipExponentOrEnd h

theorem length_skipDigits {s rest : List Char} (h : skipDigits s = .ok rest) :
    rest.length < s.length := by
  unfold skipDigits at h
  split at h
  · split at h
    · cases h
    · exact Nat.lt_succ_of_le (length_skipAfterInteger h)
  · split at h
    · next hd => exact Nat.lt_of_le_of_lt (length_skipAfterInteger h) (length_dropWhile_lt hd)
    · cases h

theorem length_skip {s rest : List Char} (h : skip s = .ok rest) : rest.length < s.length := by
  unfold skip at h
  split at h
  · exact Nat.lt_succ_of_lt (length_skipDigits h)
  · exact length_skipDigits h

end Number

end SchemaCode.Json
