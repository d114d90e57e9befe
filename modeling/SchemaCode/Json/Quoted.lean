import SchemaCode.Json.Fault

/-! `read` gives a string's characters; `skip` only finds its end and lets surrogates stand in any order. Both start
behind the opening quote. -/

namespace SchemaCode.Json

abbrev Outcome (α : Type) := Except Fault (α × List Char)

def isBlank (c : Char) : Bool := c == ' ' || c == '\n' || c == '\t' || c == '\r'

def skipBlank (s : List Char) : List Char := s.dropWhile isBlank

theorem length_skipBlank_le (s : List Char) : (skipBlank s).length ≤ s.length :=
  (List.dropWhile_sublist _).length_le

namespace Quoted

def hexDigit? (c : Char) : Option Nat :=
  if '0' ≤ c && c ≤ '9' then some (c.toNat - '0'.toNat)
  else if 'a' ≤ c && c ≤ 'f' then some (c.toNat - 'a'.toNat + 10)
  else if 'A' ≤ c && c ≤ 'F' then some (c.toNat - 'A'.toNat + 10)
  else none

/-- Four bytes are taken for the digits, even if they are not digits. -/
def hexFault (s : List Char) : Fault :=
  if size s < 4 then ⟨.endInString, 0⟩ else ⟨.badEscape, size s - 4⟩

def readHex (s : List Char) : Outcome Nat :=
  match s with
  | a :: b :: c :: d :: rest =>
    match hexDigit? a, hexDigit? b, hexDigit? c, hexDigit? d with
    | some w, some x, some y, some z => .ok (((w * 16 + x) * 16 + y) * 16 + z, rest)
    | _, _, _, _ => .error (hexFault s)
  | _ => .error (hexFault s)

def isLeading (n : Nat) : Bool := 0xD800 ≤ n && n ≤ 0xDBFF

def isTrailing (n : Nat) : Bool := 0xDC00 ≤ n && n ≤ 0xDFFF

def pair (leading trailing : Nat) : Char :=
  Char.ofNat (0x10000 + (leading - 0xD800) * 0x400 + (trailing - 0xDC00))

def readTrailing (leading : Nat) (s : List Char) : Outcome Char :=
  match s with
  | [] => .error (.here .endInString [])
  | '\\' :: 'u' :: rest =>
    match readHex rest with
    | .error f => .error f
    | .ok (n, rest) =>
      if isTrailing n then .ok (pair leading n, rest) else .error (.here .loneSurrogate rest)
  | ['\\'] => .error (.here .endInString [])
  | '\\' :: rest => .error (.next .brokenSurrogatePair rest)
  | rest => .error (.next .brokenSurrogatePair rest)

def readUnicode (s : List Char) : Outcome Char :=
  match readHex s with
  | .error f => .error f
  | .ok (n, rest) =>
    if isTrailing n then .error (.here .loneSurrogate rest)
    else if isLeading n then readTrailing n rest
    else .ok (Char.ofNat n, rest)

def simpleEscape? : Char → Option Char
  | '"' => some '"'
  | '\\' => some '\\'
  | '/' => some '/'
  | 'b' => some '\x08'
  | 'f' => some '\x0c'
  | 'n' => some '\n'
  | 'r' => some '\r'
  | 't' => some '\t'
  | _ => none

def readEscape (s : List Char) : Outcome Char :=
  match s with
  | [] => .error (.here .endInString [])
  | 'u' :: rest => readUnicode rest
  | c :: rest =>
    match simpleEscape? c with
    | some d => .ok (d, rest)
    | none => .error (.next .badEscape s)

theorem length_readHex {s rest : List Char} {n : Nat} (h : readHex s = .ok (n, rest)) :
    rest.length < s.length := by
  unfold readHex at h
  split at h
  · split at h
    · simp only [Except.ok.injEq, Prod.mk.injEq] at h
      simp only [← h.2, List.length_cons]
      omega
    · cases h
  · cases h

theorem length_readTrailing {s rest : List Char} {n : Nat} {c : Char}
    (h : readTrailing n s = .ok (c, rest)) : rest.length < s.length := by
  unfold readTrailing at h
  split at h
  · cases h
  · split at h
    · cases h
    · next hx =>
      have := length_readHex hx
      split at h
      · simp only [Except.ok.injEq, Prod.mk.injEq] at h
        simp only [← h.2, List.length_cons]
        omega
      · cases h
  · cases h
  · cases h
  · cases h

theorem length_readUnicode {s rest : List Char} {c : Char} (h : readUnicode s = .ok (c, rest)) :
    rest.length < s.length := by
  unfold readUnicode at h
  split at h
  · cases h
  · next hx =>
    have hp := length_readHex hx
    split at h
    · cases h
    · split at h
      · exact Nat.lt_trans (length_readTrailing h) hp
      · simp only [Except.ok.injEq, Prod.mk.injEq] at h
        simpa only [← h.2] using hp

theorem length_readEscape {s rest : List Char} {c : Char} (h : readEscape s = .ok (c, rest)) :
    rest.length < s.length := by
  unfold readEscape at h
  split at h
  · cases h
  · exact Nat.lt_succ_of_lt (length_readUnicode h)
  · split at h
    · simp only [Except.ok.injEq, Prod.mk.injEq] at h
      simp [← h.2]
    · cases h

def readFrom (before s : List Char) : Outcome String :=
  match s with
  | [] => .error (.here .endInString [])
  | '"' :: rest => .ok (String.ofList before.reverse, rest)
  | '\\' :: rest =>
    match h : readEscape rest with
    | .error f => .error f
    | .ok (c, rest') =>
      have := length_readEscape h
      readFrom (c :: before) rest'
  | c :: rest =>
    if c < ' ' then .error (.here .controlCharacter rest) else readFrom (c :: before) rest
termination_by s.length

def read (s : List Char) : Outcome String := readFrom [] s

theorem length_readFrom (before s : List Char) {t : String} {rest : List Char}
    (h : readFrom before s = .ok (t, rest)) : rest.length < s.length := by
  fun_induction readFrom before s with
  | case1 => cases h
  | case2 before r =>
    simp only [Except.ok.injEq, Prod.mk.injEq] at h
    simp [← h.2]
  | case3 => cases h
  | case4 before r c r' hc hlt ih =>
    have := ih h
    simp
    omega
  | case5 => cases h
  | case6 before c r _ _ _ ih =>
    have := ih h
    simp
    omega

theorem length_read {s rest : List Char} {t : String} (h : read s = .ok (t, rest)) :
    rest.length < s.length := length_readFrom [] s h

def skipEscape (s : List Char) : Except Fault (List Char) :=
  match s with
  | [] => .error (.here .endInString [])
  | 'u' :: rest =>
    match readHex rest with
    | .error f => .error f
    | .ok (_, rest) => .ok rest
  | c :: rest => if (simpleEscape? c).isSome then .ok rest else .error (.next .badEscape s)

theorem length_skipEscape {s rest : List Char} (h : skipEscape s = .ok rest) :
    rest.length < s.length := by
  unfold skipEscape at h
  split at h
  · cases h
  · split at h
    · cases h
    · next hx =>
      have := length_readHex hx
      simp only [Except.ok.injEq] at h
      simp only [← h, List.length_cons]
      omega
  · split at h
    · simp only [Except.ok.injEq] at h
      simp [h]
    · cases h

def skip (s : List Char) : Except Fault (List Char) :=
  match s with
  | [] => .error (.here .endInString [])
  | '"' :: rest => .ok rest
  | '\\' :: rest =>
    match h : skipEscape rest with
    | .error f => .error f
    | .ok rest' =>
      have := length_skipEscape h
      skip rest'
  | c :: rest => if c < ' ' then .error (.here .controlCharacter s) else skip rest
termination_by s.length

theorem length_skip (s : List Char) {rest : List Char} (h : skip s = .ok rest) :
    rest.length < s.length := by
  fun_induction skip s with
  | case1 => cases h
  | case2 r =>
    simp only [Except.ok.injEq] at h
    simp [h]
  | case3 => cases h
  | case4 r r' hc hlt ih =>
    have := ih h
    simp
    omega
  | case5 => cases h
  | case6 c r _ _ _ ih =>
    have := ih h
    simp
    omega

end Quoted

end SchemaCode.Json
