import SchemaCode.Json.Number

namespace SchemaCode.Json

namespace Scalar

def skipWord (letters s : List Char) : Except Fault (List Char) :=
  match letters, s with
  | [], s => .ok s
  | _ :: _, [] => .error (.here .endInValue [])
  | l :: letters, c :: rest =>
    if c == l then skipWord letters rest else .error (.next .unknownWord (c :: rest))

theorem length_skipWord_le (letters s : List Char) {rest : List Char}
    (h : skipWord letters s = .ok rest) : rest.length ≤ s.length := by
  fun_induction skipWord letters s with
  | case1 => cases h; exact Nat.le_refl _
  | case2 => cases h
  | case3 _ _ _ _ _ ih => exact Nat.le_succ_of_le (ih h)
  | case4 => cases h

def readWord (letters : List Char) (value : Scalar) (s : List Char) : Outcome Scalar :=
  (skipWord letters s).map fun rest => (value, rest)

theorem length_readWord_le {letters s rest : List Char} {v x : Scalar}
    (h : readWord letters v s = .ok (x, rest)) : rest.length ≤ s.length := by
  unfold readWord at h
  cases hs : skipWord letters s with
  | error f => simp [hs, Except.map] at h
  | ok r =>
    simp only [hs, Except.map, Except.ok.injEq, Prod.mk.injEq] at h
    exact h.2 ▸ length_skipWord_le _ _ hs

def read (s : List Char) : Outcome Scalar :=
  match s with
  | [] => .error (.next .endInValue [])
  | c :: rest =>
    if c = 'n' then readWord ['u', 'l', 'l'] .null rest
    else if c = 't' then readWord ['r', 'u', 'e'] (.bool true) rest
    else if c = 'f' then readWord ['a', 'l', 's', 'e'] (.bool false) rest
    else if c = '"' then (Quoted.read rest).map fun (t, rest) => (.string t, rest)
    else if c = '-' || Number.isDigit c then (Number.read s).map fun (n, rest) => (.number n, rest)
    else .error (.next .noValue s)

theorem length_read {s rest : List Char} {x : Scalar} (h : read s = .ok (x, rest)) :
    rest.length < s.length := by
  unfold read at h
  split at h
  · cases h
  · split at h
    · exact Nat.lt_succ_of_le (length_readWord_le h)
    split at h
    · exact Nat.lt_succ_of_le (length_readWord_le h)
    split at h
    · exact Nat.lt_succ_of_le (length_readWord_le h)
    split at h
    · next r _ _ _ _ =>
      cases hq : Quoted.read r with
      | error f => simp [hq, Except.map] at h
      | ok p =>
        simp only [hq, Except.map, Except.ok.injEq, Prod.mk.injEq] at h
        exact Nat.lt_succ_of_lt (h.2 ▸ Quoted.length_read hq)
    split at h
    · next c r _ _ _ _ _ =>
      cases hn : Number.read (c :: r) with
      | error f => simp [hn, Except.map] at h
      | ok p =>
        simp only [hn, Except.map, Except.ok.injEq, Prod.mk.injEq] at h
        exact h.2 ▸ Number.length_read hn
    · cases h

def skip (s : List Char) : Except Fault (List Char) :=
  match s with
  | [] => .error (.next .endInValue [])
  | c :: rest =>
    if c = 'n' then skipWord ['u', 'l', 'l'] rest
    else if c = 't' then skipWord ['r', 'u', 'e'] rest
    else if c = 'f' then skipWord ['a', 'l', 's', 'e'] rest
    else if c = '"' then Quoted.skip rest
    else if c = '-' || Number.isDigit c then Number.skip s
    else .error (.next .noValue s)

theorem length_skip {s rest : List Char} (h : skip s = .ok rest) : rest.length < s.length := by
  unfold skip at h
  split at h
  · cases h
  · split at h
    · exact Nat.lt_succ_of_le (length_skipWord_le _ _ h)
    split at h
    · exact Nat.lt_succ_of_le (length_skipWord_le _ _ h)
    split at h
    · exact Nat.lt_succ_of_le (length_skipWord_le _ _ h)
    split at h
    · exact Nat.lt_succ_of_lt (Quoted.length_skip _ h)
    split at h
    · exact Number.length_skip h
    · cases h

end Scalar

end SchemaCode.Json
