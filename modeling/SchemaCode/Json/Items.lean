import SchemaCode.Json.Scalar

namespace SchemaCode.Json

inductive Bracket where
  | list
  | object
  deriving DecidableEq

namespace Bracket

def close : Bracket → Char
  | .list => ']'
  | .object => '\x7d'

def unfinished : Bracket → Cause
  | .list => .endInList
  | .object => .endInObject

def unseparated : Bracket → Cause
  | .list => .noListSeparator
  | .object => .noObjectSeparator

end Bracket

structure Reader (α : Type) where
  read : List Char → Outcome α
  shrinks : ∀ {s a rest}, read s = .ok (a, rest) → rest.length < s.length

structure Step (σ : Type) where
  run : σ → List Char → σ × Except Fault (List Char)
  shrinks : ∀ {st s st' rest}, run st s = (st', .ok rest) → rest.length < s.length

variable {α σ : Type}

def itemsFrom (b : Bracket) (item : Step σ) (st : σ) (s : List Char) :
    σ × Except Fault (List Char) :=
  match hi : item.run st s with
  | (st, .error f) => (st, .error f)
  | (st, .ok rest) =>
    match hb : skipBlank rest with
    | [] => (st, .error (.next b.unfinished []))
    | c :: rest' =>
      if c = b.close then (st, .ok rest')
      else if c ≠ ',' then (st, .error (.next b.unseparated (c :: rest')))
      else
        match skipBlank rest' with
        | [] => (st, .error (.next .endInValue []))
        | d :: rest'' =>
          if d = b.close then (st, .error (.next .trailingComma (d :: rest'')))
          else
            have := item.shrinks hi
            have := length_skipBlank_le rest
            have : rest'.length < s.length := by simp [hb] at this; omega
            itemsFrom b item st rest'
termination_by s.length

def items (b : Bracket) (item : Step σ) (st : σ) (s : List Char) : σ × Except Fault (List Char) :=
  match skipBlank s with
  | [] => (st, .error (.next b.unfinished []))
  | c :: rest => if c = b.close then (st, .ok rest) else itemsFrom b item st s

theorem length_itemsFrom {b : Bracket} {item : Step σ} (st : σ) (s : List Char) {st' : σ}
    {rest : List Char} (h : itemsFrom b item st s = (st', .ok rest)) : rest.length < s.length := by
  fun_induction itemsFrom b item st s with
  | case1 => cases h
  | case2 => cases h
  | case3 st s st₁ rest₁ hi rest' hb =>
    have := item.shrinks hi
    have hle := length_skipBlank_le rest₁
    simp only [hb, List.length_cons] at hle
    cases h
    omega
  | case4 => cases h
  | case5 => cases h
  | case6 => cases h
  | case7 st s st₁ rest₁ hi c rest' hb _ _ d _ _ _ _ _ hlt ih => exact Nat.lt_trans (ih h) hlt

theorem length_items {b : Bracket} {item : Step σ} {st : σ} {s : List Char} {st' : σ}
    {rest : List Char} (h : items b item st s = (st', .ok rest)) : rest.length < s.length := by
  unfold items at h
  split at h
  · cases h
  · next c r hb =>
    split at h
    · have hle := length_skipBlank_le s
      simp only [hb, List.length_cons] at hle
      cases h
      omega
    · exact length_itemsFrom _ _ h

def Reader.collect (r : Reader α) : Step (List α) where
  run before s :=
    match r.read s with
    | .error f => (before, .error f)
    | .ok (a, rest) => (a :: before, .ok rest)
  shrinks h := by
    split at h
    · cases h
    · next hr =>
      cases h
      exact r.shrinks hr

def Reader.items (r : Reader α) (b : Bracket) (s : List Char) : Outcome (List α) :=
  match Json.items b r.collect [] s with
  | (_, .error f) => .error f
  | (before, .ok rest) => .ok (before.reverse, rest)

theorem Reader.length_items {r : Reader α} {b : Bracket} {s rest : List Char} {xs : List α}
    (h : r.items b s = .ok (xs, rest)) : rest.length < s.length := by
  unfold Reader.items at h
  split at h
  · cases h
  · next hr =>
    cases h
    exact Json.length_items hr

def readKey (s : List Char) : Outcome String :=
  match skipBlank s with
  | '"' :: rest => Quoted.read rest
  | rest => .error (.next .keyNotString rest)

theorem length_readKey {s rest : List Char} {k : String} (h : readKey s = .ok (k, rest)) :
    rest.length < s.length := by
  unfold readKey at h
  have hle := length_skipBlank_le s
  split at h
  · next hb =>
    have := Quoted.length_read h
    simp only [hb, List.length_cons] at hle
    omega
  · cases h

def skipColon (s : List Char) : Except Fault (List Char) :=
  match skipBlank s with
  | [] => .error (.next .endInObject [])
  | c :: rest => if c = ':' then .ok rest else .error (.next .noColon (c :: rest))

theorem length_skipColon {s rest : List Char} (h : skipColon s = .ok rest) :
    rest.length < s.length := by
  unfold skipColon at h
  have hle := length_skipBlank_le s
  split at h
  · cases h
  · next hb =>
    split at h
    · cases h
      simp only [hb, List.length_cons] at hle
      omega
    · cases h

end SchemaCode.Json
