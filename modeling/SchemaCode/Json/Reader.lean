import SchemaCode.Json.Items

namespace SchemaCode.Json

def readMember {α : Type} (value : Reader α) (s : List Char) : Outcome (String × α) :=
  match readKey s with
  | .error f => .error f
  | .ok (key, rest) =>
    match skipColon rest with
    | .error f => .error f
    | .ok rest =>
      match value.read rest with
      | .error f => .error f
      | .ok (v, rest) => .ok ((key, v), rest)

theorem length_readMember {α : Type} {value : Reader α} {s rest : List Char} {m : String × α}
    (h : readMember value s = .ok (m, rest)) : rest.length < s.length := by
  unfold readMember at h
  split at h
  · cases h
  · next hk =>
    split at h
    · cases h
    · next hc =>
      split at h
      · cases h
      · next hv =>
        cases h
        exact Nat.lt_trans (value.shrinks hv) (Nat.lt_trans (length_skipColon hc) (length_readKey hk))

def Reader.member {α : Type} (value : Reader α) : Reader (String × α) :=
  ⟨readMember value, length_readMember⟩

namespace Value

def readWith (nested : Option (Reader Value)) (s : List Char) : Outcome Value :=
  match skipBlank s with
  | [] => .error (.next .endInValue [])
  | c :: rest =>
    if c = '[' then
      match nested with
      | none => .error (.next .tooDeep (c :: rest))
      | some value =>
        match value.items .list rest with
        | .error f => .error f
        | .ok (xs, rest) => .ok (.array xs, rest)
    else if c = '\x7b' then
      match nested with
      | none => .error (.next .tooDeep (c :: rest))
      | some value =>
        match value.member.items .object rest with
        | .error f => .error f
        | .ok (ms, rest) => .ok (.object ms, rest)
    else
      match Scalar.read (c :: rest) with
      | .error f => .error f
      | .ok (x, rest) => .ok (.scalar x, rest)

theorem length_readWith {nested : Option (Reader Value)} {s rest : List Char} {v : Value}
    (h : readWith nested s = .ok (v, rest)) : rest.length < s.length := by
  unfold readWith at h
  have hle := length_skipBlank_le s
  split at h
  · cases h
  · next c r hb =>
    simp only [hb, List.length_cons] at hle
    split at h
    · split at h
      · cases h
      · split at h
        · cases h
        · next hi =>
          cases h
          have := Reader.length_items hi
          omega
    split at h
    · split at h
      · cases h
      · split at h
        · cases h
        · next hi =>
          cases h
          have := Reader.length_items hi
          omega
    split at h
    · cases h
    · next hx =>
      cases h
      have := Scalar.length_read hx
      simp only [List.length_cons] at this
      omega

def reader : (depth : Nat) → Reader Value
  | 0 => ⟨readWith none, length_readWith⟩
  | depth + 1 => ⟨readWith (some (reader depth)), length_readWith⟩

end Value

end SchemaCode.Json
