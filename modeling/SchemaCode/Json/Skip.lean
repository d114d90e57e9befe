import SchemaCode.Json.Items

namespace SchemaCode.Json.Skip

inductive Stage where
  | done (rest : List Char)
  | value (opened : List Bracket) (rest : List Char)

def Stage.rest : Stage → List Char
  | .done rest => rest
  | .value _ rest => rest

def skipKey (s : List Char) : Except Fault (List Char) :=
  match skipBlank s with
  | [] => .error (.next .endInObject [])
  | c :: rest =>
    if c ≠ '"' then .error (.next .keyNotString (c :: rest))
    else
      match Quoted.skip rest with
      | .error f => .error f
      | .ok rest => skipColon rest

def nextItem (b : Bracket) (opened : List Bracket) (s : List Char) : Except Fault Stage :=
  match b with
  | .list => .ok (.value (.list :: opened) s)
  | .object =>
    match skipKey s with
    | .error f => .error f
    | .ok rest => .ok (.value (.object :: opened) rest)

def afterValue : (opened : List Bracket) → List Char → Except Fault Stage
  | [], s => .ok (.done s)
  | b :: opened, s =>
    match skipBlank s with
    | [] => .error (.next b.unfinished [])
    | c :: rest =>
      if c = ',' then nextItem b opened rest
      else if c = b.close then afterValue opened rest
      else .error (.next b.unseparated (c :: rest))

def afterOpening (b : Bracket) (opened : List Bracket) (s : List Char) : Except Fault Stage :=
  match skipBlank s with
  | [] => .error (.next b.unfinished [])
  | c :: rest => if c = b.close then afterValue opened rest else nextItem b opened s

def advance (opened : List Bracket) (s : List Char) : Except Fault Stage :=
  match skipBlank s with
  | [] => .error (.next .endInValue [])
  | c :: rest =>
    if c = '[' then afterOpening .list opened rest
    else if c = '\x7b' then afterOpening .object opened rest
    else
      match Scalar.skip (c :: rest) with
      | .error f => .error f
      | .ok rest => afterValue opened rest

theorem length_skipKey {s rest : List Char} (h : skipKey s = .ok rest) : rest.length < s.length := by
  unfold skipKey at h
  have hle := length_skipBlank_le s
  split at h
  · cases h
  · next hb =>
    simp only [hb, List.length_cons] at hle
    split at h
    · cases h
    · split at h
      · cases h
      · next hq =>
        have := Quoted.length_skip _ hq
        have := length_skipColon h
        omega

theorem length_nextItem_le {b : Bracket} {opened : List Bracket} {s : List Char} {t : Stage}
    (h : nextItem b opened s = .ok t) : t.rest.length ≤ s.length := by
  unfold nextItem at h
  split at h
  · cases h
    exact Nat.le_refl _
  · split at h
    · cases h
    · next hk =>
      cases h
      exact Nat.le_of_lt (length_skipKey hk)

theorem length_afterValue_le (opened : List Bracket) (s : List Char) {t : Stage}
    (h : afterValue opened s = .ok t) : t.rest.length ≤ s.length := by
  induction opened generalizing s with
  | nil =>
    cases h
    exact Nat.le_refl _
  | cons b opened ih =>
    unfold afterValue at h
    have hle := length_skipBlank_le s
    split at h
    · cases h
    · next hb =>
      simp only [hb, List.length_cons] at hle
      split at h
      · have := length_nextItem_le h
        omega
      · split at h
        · have := ih _ h
          omega
        · cases h

theorem length_afterOpening_le {b : Bracket} {opened : List Bracket} {s : List Char} {t : Stage}
    (h : afterOpening b opened s = .ok t) : t.rest.length ≤ s.length := by
  unfold afterOpening at h
  have hle := length_skipBlank_le s
  split at h
  · cases h
  · next hb =>
    simp only [hb, List.length_cons] at hle
    split at h
    · have := length_afterValue_le _ _ h
      omega
    · exact length_nextItem_le h

theorem length_advance {opened : List Bracket} {s : List Char} {t : Stage}
    (h : advance opened s = .ok t) : t.rest.length < s.length := by
  unfold advance at h
  have hle := length_skipBlank_le s
  split at h
  · cases h
  · next hb =>
    simp only [hb, List.length_cons] at hle
    split at h
    · have := length_afterOpening_le h
      omega
    split at h
    · have := length_afterOpening_le h
      omega
    split at h
    · cases h
    · next hs =>
      have := Scalar.length_skip hs
      have := length_afterValue_le _ _ h
      simp only [List.length_cons] at *
      omega

def run (opened : List Bracket) (s : List Char) : Except Fault (List Char) :=
  match h : advance opened s with
  | .error f => .error f
  | .ok (.done rest) => .ok rest
  | .ok (.value opened rest) =>
    have : rest.length < s.length := length_advance h
    run opened rest
termination_by s.length

theorem length_run (opened : List Bracket) (s : List Char) {rest : List Char}
    (h : run opened s = .ok rest) : rest.length < s.length := by
  fun_induction run opened s with
  | case1 => cases h
  | case2 opened s rest' ha =>
    cases h
    exact length_advance ha
  | case3 opened s opened' rest' ha hlt ih => exact Nat.lt_trans (ih h) hlt

def value (s : List Char) : Except Fault (List Char) := run [] s

theorem length_value {s rest : List Char} (h : value s = .ok rest) : rest.length < s.length :=
  length_run [] s h

end SchemaCode.Json.Skip
