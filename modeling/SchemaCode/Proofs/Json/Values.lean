import SchemaCode.Proofs.Json.Lists

namespace SchemaCode.Json

variable {s t rest : List Char}

inductive ScalarText : List Char → Scalar → Prop
  | null : ScalarText ['n', 'u', 'l', 'l'] .null
  | true : ScalarText ['t', 'r', 'u', 'e'] (.bool true)
  | false : ScalarText ['f', 'a', 'l', 's', 'e'] (.bool false)
  | number {t : List Char} {n : Number} (h : Number.Denotes t n) : ScalarText t (.number n)
  | string {t cs : List Char} (h : Quoted.Spells t cs) : ScalarText ('"' :: (t ++ ['"'])) (.string (String.ofList cs))

inductive ScalarForm : List Char → Prop
  | null : ScalarForm ['n', 'u', 'l', 'l']
  | true : ScalarForm ['t', 'r', 'u', 'e']
  | false : ScalarForm ['f', 'a', 'l', 's', 'e']
  | number {t : List Char} (h : Number.Form t) : ScalarForm t
  | string {t : List Char} (h : Quoted.Form t) : ScalarForm ('"' :: (t ++ ['"']))

lemma Number.Form.exists_cons (h : Number.Form t) : ∃ c t', t = c :: t' ∧ (c = '-' || isDigit c) = true := by
  obtain ⟨u, ⟨i, e, hi, -, rfl⟩, rfl | rfl⟩ := h
  · cases hi with
    | zero => exact ⟨_, _, rfl, rfl⟩
    | digits hc => exact ⟨_, _, rfl, by simp [hc]⟩
  · exact ⟨_, _, rfl, rfl⟩

lemma of_number_start {c : Char} (h : (c = '-' || Number.isDigit c) = true) :
    c ≠ 'n' ∧ c ≠ 't' ∧ c ≠ 'f' ∧ c ≠ '"' := by
  refine ⟨?_, ?_, ?_, ?_⟩ <;>
  · rintro rfl
    exact absurd h (by decide)

lemma of_scalar_start {c : Char} (h : c ∈ ['n', 't', 'f', '"'] ∨ (c = '-' || Number.isDigit c) = true)
    (t : List Char) : c ≠ '[' ∧ c ≠ '\x7b' ∧ ¬ Delimited (c :: t) := by
  refine ⟨?_, ?_, fun hd => ?_⟩
  · rintro rfl
    exact absurd h (by decide)
  · rintro rfl
    exact absurd h (by decide)
  · have hc := hd c rfl
    simp only [isBlank, Bool.or_eq_true, beq_iff_eq] at hc
    rcases hc with (((rfl | rfl) | rfl) | rfl) | rfl | rfl | rfl <;> exact absurd h (by decide)

lemma ScalarForm.exists_cons (h : ScalarForm t) :
    ∃ c t', t = c :: t' ∧ c ≠ '[' ∧ c ≠ '\x7b' ∧ ¬ Delimited (c :: t') := by
  cases h with
  | null => exact ⟨_, _, rfl, of_scalar_start (by simp) _⟩
  | true => exact ⟨_, _, rfl, of_scalar_start (by simp) _⟩
  | false => exact ⟨_, _, rfl, of_scalar_start (by simp) _⟩
  | number h =>
    obtain ⟨c, t, rfl, hc⟩ := h.exists_cons
    exact ⟨c, t, rfl, of_scalar_start (.inr hc) t⟩
  | string h => exact ⟨_, _, rfl, of_scalar_start (by simp) _⟩

lemma Quoted.Spells.form {cs : List Char} (h : Spells t cs) : Form t := by
  induction h with
  | nil => exact .nil
  | plain hquote hescape hc _ ih => exact .plain hquote hescape hc ih
  | escape he _ ih =>
    cases he with
    | simple he => exact .escape (.simple (by simp [he])) ih
    | unicode hn => exact .escape (.unicode hn) ih
    | pair hm _ hn =>
      have hboth := Form.escape (.unicode hm) (.escape (.unicode hn) ih)
      simpa using hboth

lemma ScalarText.form {x : Scalar} (h : ScalarText t x) : ScalarForm t := by
  cases h with
  | null => exact .null
  | true => exact .true
  | false => exact .false
  | number h => exact .number h.form
  | string h => exact .string h.form

lemma map_eq_ok_iff {α β : Type} {o : Except Fault α} {f : α → β} {b : β} :
    o.map f = .ok b ↔ ∃ a, o = .ok a ∧ f a = b := by
  cases o <;> simp [Except.map]

namespace Scalar

lemma skipWord_eq_ok_iff {letters : List Char} : skipWord letters s = .ok rest ↔ s = letters ++ rest := by
  fun_induction skipWord letters s with
  | case1 => simp
  | case2 => simp
  | case3 l letters c s hc ih =>
    rw [ih]
    simp [eq_of_beq hc]
  | case4 l letters c s hc =>
    have hc : c ≠ l := by simpa using hc
    simp [hc]

lemma readWord_eq_ok_iff {letters : List Char} {x y : Scalar} :
    readWord letters x s = .ok (y, rest) ↔ y = x ∧ s = letters ++ rest := by
  rw [← skipWord_eq_ok_iff, readWord]
  cases skipWord letters s <;> simp [Except.map, eq_comm]

lemma form_of_skip (h : skip s = .ok rest) : ∃ t, ScalarForm t ∧ s = t ++ rest := by
  unfold skip at h
  split at h
  · cases h
  split at h
  · obtain rfl := skipWord_eq_ok_iff.mp h
    exact ⟨_, .null, by simp [*]⟩
  split at h
  · obtain rfl := skipWord_eq_ok_iff.mp h
    exact ⟨_, .true, by simp [*]⟩
  split at h
  · obtain rfl := skipWord_eq_ok_iff.mp h
    exact ⟨_, .false, by simp [*]⟩
  split at h
  · rename_i hquote
    obtain ⟨t, ht, rfl⟩ := Quoted.skip_eq_ok_iff.mp h
    exact ⟨_, .string ht, by simp [hquote]⟩
  split at h
  · obtain ⟨t, ht, hs⟩ := Number.form_of_skip h
    exact ⟨t, .number ht, hs⟩
  · cases h

lemma read_eq_ok_iff {x : Scalar} (h : Delimited rest) :
    read s = .ok (x, rest) ↔ ∃ t, ScalarText t x ∧ s = t ++ rest := by
  constructor
  · intro hread
    unfold read at hread
    split at hread
    · cases hread
    split at hread
    · obtain ⟨rfl, rfl⟩ := readWord_eq_ok_iff.mp hread
      exact ⟨_, .null, by simp [*]⟩
    split at hread
    · obtain ⟨rfl, rfl⟩ := readWord_eq_ok_iff.mp hread
      exact ⟨_, .true, by simp [*]⟩
    split at hread
    · obtain ⟨rfl, rfl⟩ := readWord_eq_ok_iff.mp hread
      exact ⟨_, .false, by simp [*]⟩
    split at hread
    · rename_i hquote
      obtain ⟨⟨y, r⟩, hstring, heq⟩ := map_eq_ok_iff.mp hread
      cases heq
      obtain ⟨t, cs, ht, rfl, rfl⟩ := Quoted.read_eq_ok_iff.mp hstring
      exact ⟨_, .string ht, by simp [hquote]⟩
    split at hread
    · obtain ⟨⟨n, r⟩, hnumber, heq⟩ := map_eq_ok_iff.mp hread
      cases heq
      obtain ⟨t, ht, hs⟩ := (Number.read_eq_ok_iff h).mp hnumber
      exact ⟨t, .number ht, hs⟩
    · cases hread
  · rintro ⟨t, ht, rfl⟩
    cases ht with
    | null => rfl
    | true => rfl
    | false => rfl
    | number hn =>
      have hread := (Number.read_eq_ok_iff h).mpr ⟨t, hn, rfl⟩
      obtain ⟨c, t, rfl, hc⟩ := hn.form.exists_cons
      obtain ⟨hnull, htrue, hfalse, hquote⟩ := of_number_start hc
      rw [List.cons_append] at hread ⊢
      simp only [read, if_neg hnull, if_neg htrue, if_neg hfalse, if_neg hquote, if_pos hc]
      exact map_eq_ok_iff.mpr ⟨_, hread, rfl⟩
    | @string t cs hs =>
      have hread : Quoted.read (t ++ '"' :: rest) = .ok (String.ofList cs, rest) :=
        Quoted.read_eq_ok_iff.mpr ⟨t, cs, hs, rfl, rfl⟩
      rw [List.cons_append, List.append_assoc]
      exact map_eq_ok_iff.mpr ⟨_, hread, rfl⟩

lemma skip_eq_ok_iff (h : Delimited rest) : skip s = .ok rest ↔ ∃ t, ScalarForm t ∧ s = t ++ rest := by
  constructor
  · exact form_of_skip
  · rintro ⟨t, ht, rfl⟩
    cases ht with
    | null => rfl
    | true => rfl
    | false => rfl
    | number hn =>
      have hskip := (Number.skip_eq_ok_iff h).mpr ⟨t, hn, rfl⟩
      obtain ⟨c, t, rfl, hc⟩ := hn.exists_cons
      obtain ⟨hnull, htrue, hfalse, hquote⟩ := of_number_start hc
      rw [List.cons_append] at hskip ⊢
      simp only [skip, if_neg hnull, if_neg htrue, if_neg hfalse, if_neg hquote, if_pos hc]
      exact hskip
    | @string t hs =>
      rw [List.cons_append, List.append_assoc]
      exact Quoted.skip_eq_ok_iff.mpr ⟨t, hs, rfl⟩

end Scalar

inductive NestingText (P : List Char → Value → Prop) : List Char → Value → Prop
  | scalar {t : List Char} {x : Scalar} (h : ScalarText t x) : NestingText P t (.scalar x)
  | array {t : List Char} {vs : List Value} (h : Items P t vs) : NestingText P ('[' :: (t ++ [']'])) (.array vs)
  | object {t : List Char} {ms : List (String × Value)} (h : Items (MemberText P) t ms) :
      NestingText P ('\x7b' :: (t ++ ['\x7d'])) (.object ms)

def ValueText : (depth : Nat) → List Char → Value → Prop
  | 0 => fun t v => ∃ x, ScalarText t x ∧ v = .scalar x
  | depth + 1 => NestingText (ValueText depth)

lemma ValueText.not_delimited {depth : Nat} {v : Value} (h : ValueText depth t v) : ¬ Delimited t := by
  have hscalar : ∀ {t x}, ScalarText t x → ¬ Delimited t := by
    intro t x hx
    obtain ⟨c, t, rfl, -, -, hc⟩ := hx.form.exists_cons
    exact hc
  cases depth with
  | zero =>
    obtain ⟨x, hx, -⟩ := h
    exact hscalar hx
  | succ depth =>
    cases h with
    | scalar hx => exact hscalar hx
    | array => exact not_delimited_opening .list _
    | object => exact not_delimited_opening .object _

namespace Value

variable {nested : Option (Reader Value)} {value : Reader Value} {v : Value} {u : List Char}

lemma readWith_scalar {x : Scalar} (hu : Blank u) (hx : ScalarText t x) (h : Delimited rest) :
    readWith nested (u ++ (t ++ rest)) = .ok (.scalar x, rest) := by
  have hread := (Scalar.read_eq_ok_iff h).mpr ⟨t, hx, rfl⟩
  obtain ⟨c, t, rfl, hlist, hobject, hc⟩ := hx.form.exists_cons
  obtain ⟨hblank, -⟩ := of_not_delimited_cons hc
  rw [List.cons_append] at hread ⊢
  simp only [readWith, skipBlank_append_cons hu hblank, if_neg hlist, if_neg hobject, hread]

lemma readWith_array {vs : List Value} (hu : Blank u) (h : value.items .list s = .ok (vs, rest)) :
    readWith (some value) (u ++ '[' :: s) = .ok (.array vs, rest) := by
  have hblank : isBlank '[' = false := by decide
  simp only [readWith, skipBlank_append_cons hu hblank, if_true, h]

lemma readWith_object {ms : List (String × Value)} (hu : Blank u)
    (h : value.member.items .object s = .ok (ms, rest)) :
    readWith (some value) (u ++ '\x7b' :: s) = .ok (.object ms, rest) := by
  have hblank : isBlank '\x7b' = false := by decide
  have hlist : '\x7b' ≠ '[' := by decide
  simp only [readWith, skipBlank_append_cons hu hblank, if_neg hlist, if_true, h]

lemma of_readWith (hread : readWith nested s = .ok (v, rest)) (h : Delimited rest) : ∃ u, Blank u ∧
    ((∃ t x, ScalarText t x ∧ v = .scalar x ∧ s = u ++ (t ++ rest)) ∨
      ∃ value, nested = some value ∧
        ((∃ r vs, value.items .list r = .ok (vs, rest) ∧ v = .array vs ∧ s = u ++ '[' :: r) ∨
          ∃ r ms, value.member.items .object r = .ok (ms, rest) ∧ v = .object ms ∧ s = u ++ '\x7b' :: r)) := by
  unfold readWith at hread
  split at hread
  · cases hread
  · rename_i hb
    obtain ⟨-, u, hu, rfl⟩ := skipBlank_eq_cons_iff.mp hb
    refine ⟨u, hu, ?_⟩
    split at hread
    · rename_i hc
      split at hread
      · cases hread
      split at hread
      · cases hread
      · rename_i hitems
        cases hread
        exact .inr ⟨_, rfl, .inl ⟨_, _, hitems, rfl, by rw [hc]⟩⟩
    split at hread
    · rename_i hc
      split at hread
      · cases hread
      split at hread
      · cases hread
      · rename_i hitems
        cases hread
        exact .inr ⟨_, rfl, .inr ⟨_, _, hitems, rfl, by rw [hc]⟩⟩
    split at hread
    · cases hread
    · rename_i hx
      cases hread
      obtain ⟨t, ht, hs⟩ := (Scalar.read_eq_ok_iff h).mp hx
      exact .inl ⟨t, _, ht, rfl, by rw [hs]⟩

lemma reader_zero_read : (reader 0).read = readWith none := rfl

lemma reader_succ_read (depth : Nat) : (reader (depth + 1)).read = readWith (some (reader depth)) := rfl

lemma reader_reads (depth : Nat) : (reader depth).Reads (ValueText depth) := by
  induction depth with
  | zero =>
    refine ⟨ValueText.not_delimited , fun {s rest v} h => ?_⟩
    rw [reader_zero_read]
    constructor
    · intro hread
      obtain ⟨u, hu, ⟨t, x, hx, hv, hs⟩ | ⟨_, ⟨⟩, _⟩⟩ := of_readWith hread h
      exact ⟨u, t, hu, ⟨x, hx, hv⟩, hs⟩
    · rintro ⟨u, t, hu, ⟨x, hx, rfl⟩, rfl⟩
      exact readWith_scalar hu hx h
  | succ depth ih =>
    refine ⟨ValueText.not_delimited , fun {s rest v} h => ?_⟩
    rw [reader_succ_read]
    constructor
    · intro hread
      obtain ⟨u, hu, ⟨t, x, hx, rfl, hs⟩ | ⟨_, ⟨⟩, ⟨r, vs, hvs, rfl, rfl⟩ | ⟨r, ms, hms, rfl, rfl⟩⟩⟩ :=
        of_readWith hread h
      · exact ⟨u, t, hu, .scalar hx, hs⟩
      · obtain ⟨t, ht, rfl⟩ := ih.items_eq_ok_iff.mp hvs
        exact ⟨u, _, hu, .array ht, by simp [Bracket.close]⟩
      · obtain ⟨t, ht, rfl⟩ := ih.member.items_eq_ok_iff.mp hms
        exact ⟨u, _, hu, .object ht, by simp [Bracket.close]⟩
    · rintro ⟨u, t, hu, ht, rfl⟩
      cases ht with
      | scalar hx => exact readWith_scalar hu hx h
      | @array t vs ht =>
        have hvs : (reader depth).items .list (t ++ ']' :: rest) = .ok (vs, rest) :=
          ih.items_eq_ok_iff.mpr ⟨t, ht, rfl⟩
        rw [List.cons_append, List.append_assoc]
        exact readWith_array hu hvs
      | @object t ms ht =>
        have hms : (reader depth).member.items .object (t ++ '\x7d' :: rest) = .ok (ms, rest) :=
          ih.member.items_eq_ok_iff.mpr ⟨t, ht, rfl⟩
        rw [List.cons_append, List.append_assoc]
        exact readWith_object hu hms

end Value

end SchemaCode.Json
