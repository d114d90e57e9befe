import Mathlib.Data.List.TakeWhile
import SchemaCode.Json.Number

namespace SchemaCode.Json

/-- The text ends, or goes on with what may follow a value. -/
def Delimited (s : List Char) : Prop :=
  ∀ c ∈ s.head?, isBlank c = true ∨ c = ',' ∨ c = ']' ∨ c = '\x7d'

lemma delimited_nil : Delimited [] := nofun

namespace Number

inductive Whole : List Char → Prop
  | zero : Whole ['0']
  | digits {c : Char} {ds : List Char} (hc : isDigit c = true) (hne : c ≠ '0') (hds : ∀ d ∈ ds, isDigit d = true) :
      Whole (c :: ds)

inductive Fraction : List Char → Prop
  | none : Fraction []
  | some {c : Char} {ds : List Char} (hc : isDigit c = true) (hds : ∀ d ∈ ds, isDigit d = true) :
      Fraction ('.' :: c :: ds)

inductive Sign : List Char → Prop
  | none : Sign []
  | plus : Sign ['+']
  | minus : Sign ['-']

inductive Exponent : List Char → Prop
  | none : Exponent []
  | some {e c : Char} {sign ds : List Char} (he : e = 'e' ∨ e = 'E') (hs : Sign sign) (hc : isDigit c = true)
      (hds : ∀ d ∈ ds, isDigit d = true) : Exponent (e :: (sign ++ c :: ds))

def Tail (t : List Char) : Prop := ∃ f e, Fraction f ∧ Exponent e ∧ t = f ++ e

def Unsigned (t : List Char) : Prop := ∃ i e, Whole i ∧ Tail e ∧ t = i ++ e

def Form (t : List Char) : Prop := ∃ u, Unsigned u ∧ (t = u ∨ t = '-' :: u)

variable {s t rest ds tail : List Char} {c : Char} {n : Number} {d : Numeral} {negative : Bool}

lemma of_delimited_cons (h : Delimited (c :: s)) : c ≠ '.' ∧ c ≠ 'e' ∧ c ≠ 'E' ∧ isDigit c = false := by
  have hc := h c rfl
  simp only [isBlank, Bool.or_eq_true, beq_iff_eq] at hc
  rcases hc with (((rfl | rfl) | rfl) | rfl) | rfl | rfl | rfl <;> decide

lemma startsDigit_cons (c : Char) (s : List Char) : startsDigit (c :: s) = isDigit c := rfl

lemma startsDigit_of_delimited (h : Delimited s) : startsDigit s = false := by
  cases s with
  | nil => rfl
  | cons c s => exact (of_delimited_cons h).2.2.2

lemma exists_digits (h : startsDigit s = true) : ∃ c ds, isDigit c = true ∧ (∀ d ∈ ds, isDigit d = true) ∧
    s = c :: (ds ++ s.dropWhile isDigit) := by
  cases s with
  | nil => exact absurd h Bool.false_ne_true
  | cons c s =>
    have hc : isDigit c = true := h
    refine ⟨c, s.takeWhile isDigit, hc, fun d hd => List.mem_takeWhile_imp hd, ?_⟩
    rw [List.dropWhile_cons_of_pos hc, List.takeWhile_append_dropWhile]

lemma dropWhile_digits (hds : ∀ d ∈ ds, isDigit d = true) (h : startsDigit tail = false) :
    (ds ++ tail).dropWhile isDigit = tail := by
  rw [List.dropWhile_append_of_pos hds]
  cases tail with
  | nil => rfl
  | cons c tail => exact List.dropWhile_cons_of_neg (Bool.eq_false_iff.mp h)

lemma dropWhile_cons_digits (hc : isDigit c = true) (hds : ∀ d ∈ ds, isDigit d = true)
    (h : startsDigit tail = false) : (c :: (ds ++ tail)).dropWhile isDigit = tail := by
  rw [List.dropWhile_cons_of_pos hc, dropWhile_digits hds h]

lemma exponent_of_skipExponent (h : skipExponent s = .ok rest) {e : Char} (he : e = 'e' ∨ e = 'E') :
    ∃ t, Exponent (e :: t) ∧ s = t ++ rest := by
  have hsign : ∃ sign, Sign sign ∧ s = sign ++ dropSign s := by
    unfold dropSign
    split
    · exact ⟨['+'], .plus, rfl⟩
    · exact ⟨['-'], .minus, rfl⟩
    · exact ⟨[], .none, rfl⟩
  obtain ⟨sign, hsign, hs⟩ := hsign
  rw [skipExponent] at h
  split at h
  · rename_i hd
    obtain ⟨c, ds, hc, hds, heq⟩ := exists_digits hd
    obtain rfl := Except.ok.inj h
    refine ⟨sign ++ c :: ds, .some he hsign hc hds, ?_⟩
    rw [List.append_assoc, List.cons_append, ← heq, ← hs]
  · cases h

lemma exponent_of_skipExponentOrEnd (h : skipExponentOrEnd s = .ok rest) : ∃ e, Exponent e ∧ s = e ++ rest := by
  unfold skipExponentOrEnd at h
  split at h
  · obtain ⟨t, ht, rfl⟩ := exponent_of_skipExponent h (.inl rfl)
    exact ⟨_, ht, rfl⟩
  · obtain ⟨t, ht, rfl⟩ := exponent_of_skipExponent h (.inr rfl)
    exact ⟨_, ht, rfl⟩
  · exact ⟨[], .none, Except.ok.inj h⟩

lemma tail_of_skipAfterInteger (h : skipAfterInteger s = .ok rest) : ∃ t, Tail t ∧ s = t ++ rest := by
  unfold skipAfterInteger at h
  split at h
  · rename_i r
    rw [skipFraction] at h
    split at h
    · rename_i hd
      obtain ⟨c, ds, hc, hds, heq⟩ := exists_digits hd
      obtain ⟨e, he, hr⟩ := exponent_of_skipExponentOrEnd h
      refine ⟨_, ⟨_, e, .some hc hds, he, rfl⟩, ?_⟩
      rw [hr] at heq
      rw [heq]
      simp
    · cases h
  · obtain ⟨e, he, hr⟩ := exponent_of_skipExponentOrEnd h
    exact ⟨e, ⟨[], e, .none, he, rfl⟩, hr⟩

lemma unsigned_of_skipDigits (h : skipDigits s = .ok rest) : ∃ u, Unsigned u ∧ s = u ++ rest := by
  unfold skipDigits at h
  split at h
  · split at h
    · cases h
    · obtain ⟨t, ht, rfl⟩ := tail_of_skipAfterInteger h
      exact ⟨'0' :: t, ⟨['0'], t, .zero, ht, rfl⟩, rfl⟩
  · rename_i hzero
    split at h
    · rename_i hd
      obtain ⟨c, ds, hc, hds, heq⟩ := exists_digits hd
      obtain ⟨t, ht, hr⟩ := tail_of_skipAfterInteger h
      rw [hr] at heq
      refine ⟨c :: ds ++ t, ⟨c :: ds, t, .digits hc ?_ hds, ht, rfl⟩, ?_⟩
      · rintro rfl
        exact hzero _ heq
      · rw [heq]
        simp
    · cases h

lemma form_of_skip (h : skip s = .ok rest) : ∃ t, Form t ∧ s = t ++ rest := by
  unfold skip at h
  split at h
  · obtain ⟨u, hu, rfl⟩ := unsigned_of_skipDigits h
    exact ⟨'-' :: u, ⟨u, hu, .inr rfl⟩, rfl⟩
  · obtain ⟨u, hu, rfl⟩ := unsigned_of_skipDigits h
    exact ⟨u, ⟨u, hu, .inl rfl⟩, rfl⟩

lemma startsDigit_exponent {e : List Char} (he : Exponent e) (h : Delimited rest) :
    startsDigit (e ++ rest) = false := by
  cases he with
  | none => exact startsDigit_of_delimited h
  | some he => rcases he with rfl | rfl <;> rfl

lemma startsDigit_tail (ht : Tail t) (h : Delimited rest) : startsDigit (t ++ rest) = false := by
  obtain ⟨f, e, hf, he, rfl⟩ := ht
  cases hf with
  | none => exact startsDigit_exponent he h
  | some => rfl

lemma dropSign_digits {sign : List Char} (hs : Sign sign) (hc : isDigit c = true) :
    dropSign (sign ++ c :: s) = c :: s := by
  cases hs with
  | none =>
    unfold dropSign
    split
    · rename_i hcons
      obtain ⟨rfl, -⟩ := List.cons.inj hcons
      exact absurd hc (by decide)
    · rename_i hcons
      obtain ⟨rfl, -⟩ := List.cons.inj hcons
      exact absurd hc (by decide)
    · rfl
  | plus => rfl
  | minus => rfl

lemma skipExponentOrEnd_of_delimited (h : Delimited rest) : skipExponentOrEnd rest = .ok rest := by
  unfold skipExponentOrEnd
  split
  · exact absurd rfl (of_delimited_cons h).2.1
  · exact absurd rfl (of_delimited_cons h).2.2.1
  · rfl

lemma skipExponentOrEnd_exponent {e : List Char} (he : Exponent e) (h : Delimited rest) :
    skipExponentOrEnd (e ++ rest) = .ok rest := by
  cases he with
  | none => exact skipExponentOrEnd_of_delimited h
  | @some e c sign ds he hs hc hds =>
    have hskip : skipExponent (sign ++ c :: ds ++ rest) = .ok rest := by
      rw [skipExponent, List.append_assoc, List.cons_append, dropSign_digits hs hc, startsDigit_cons, if_pos hc,
        dropWhile_cons_digits hc hds (startsDigit_of_delimited h)]
    rcases he with rfl | rfl <;> exact hskip

lemma skipAfterInteger_tail (ht : Tail t) (h : Delimited rest) : skipAfterInteger (t ++ rest) = .ok rest := by
  obtain ⟨f, e, hf, he, rfl⟩ := ht
  have hexponent := skipExponentOrEnd_exponent he h
  cases hf with
  | none =>
    have hpoint : ∀ r, e ++ rest ≠ '.' :: r := by
      intro r hr
      cases he with
      | none => exact (of_delimited_cons (c := '.') (s := r) (hr ▸ h)).1 rfl
      | some he => rcases he with rfl | rfl <;> cases hr
    rw [List.nil_append, skipAfterInteger]
    · exact hexponent
    · exact hpoint
  | @some c ds hc hds =>
    show skipFraction (c :: ds ++ e ++ rest) = _
    rw [skipFraction, List.append_assoc, List.cons_append, startsDigit_cons, if_pos hc,
      dropWhile_cons_digits hc hds (startsDigit_exponent he h), hexponent]

lemma skipDigits_unsigned {u : List Char} (hu : Unsigned u) (h : Delimited rest) :
    skipDigits (u ++ rest) = .ok rest := by
  obtain ⟨i, t, hi, ht, rfl⟩ := hu
  have htail := skipAfterInteger_tail ht h
  cases hi with
  | zero =>
    show (if startsDigit (t ++ rest) = true then _ else skipAfterInteger (t ++ rest)) = _
    rw [startsDigit_tail ht h, if_neg Bool.false_ne_true, htail]
  | @digits c ds hc hne hds =>
    rw [List.append_assoc, List.cons_append, skipDigits]
    · rw [startsDigit_cons, if_pos hc, dropWhile_cons_digits hc hds (startsDigit_tail ht h), htail]
    · exact fun _ hcons => hne (List.cons.inj hcons).1

lemma Unsigned.ne_minus {u : List Char} (hu : Unsigned u) : ∀ r, u ++ rest ≠ '-' :: r := by
  intro r hr
  obtain ⟨i, e, hi, -, rfl⟩ := hu
  cases hi with
  | zero => cases hr
  | digits hc =>
    obtain ⟨rfl, -⟩ := List.cons.inj hr
    exact absurd hc (by decide)

lemma skip_form (ht : Form t) (h : Delimited rest) : skip (t ++ rest) = .ok rest := by
  obtain ⟨u, hu, rfl | rfl⟩ := ht
  · rw [skip]
    · exact skipDigits_unsigned hu h
    · exact hu.ne_minus
  · exact skipDigits_unsigned hu h

lemma dropWhile_collect (limit m k : Nat) (s : List Char) :
    (collect limit m k s).2.2.dropWhile isDigit = s.dropWhile isDigit := by
  fun_induction collect limit m k s with
  | case1 => rfl
  | case2 m k c s next hc ih =>
    rw [Bool.and_eq_true] at hc
    rw [ih, List.dropWhile_cons_of_pos hc.1]
  | case3 => rfl

lemma eq_of_finish (h : finish d s = .ok (n, rest)) : s = rest := by
  unfold finish at h
  split at h
  · exact (Prod.mk.inj (Except.ok.inj h)).2
  · cases h

lemma dropWhile_of_hugeExponent (h : hugeExponent d negative s = .ok (n, rest)) : s.dropWhile isDigit = rest := by
  unfold hugeExponent at h
  split at h
  · cases h
  · exact (Prod.mk.inj (Except.ok.inj h)).2

lemma dropWhile_of_not_startsDigit (h : ¬ startsDigit s = true) : s.dropWhile isDigit = s :=
  dropWhile_digits (List.forall_mem_nil _) (Bool.eq_false_iff.mpr h)

lemma skipExponent_of_exponentDigits (h : exponentDigits d negative s = .ok (n, rest)) :
    startsDigit s = true ∧ s.dropWhile isDigit = rest := by
  unfold exponentDigits at h
  split at h
  · cases h
  · rename_i c s
    split at h
    · cases h
    · rename_i hc
      have hc : isDigit c = true := by simpa using hc
      rw [List.dropWhile_cons_of_pos hc, ← dropWhile_collect largestExponent (digit c) 1 s]
      refine ⟨hc, ?_⟩
      dsimp only at h
      split at h
      · exact dropWhile_of_hugeExponent h
      · rename_i hstart
        rw [dropWhile_of_not_startsDigit hstart, eq_of_finish h]

lemma skipExponent_of_exponentPart (h : exponentPart d s = .ok (n, rest)) : skipExponent s = .ok rest := by
  have hdigits : ∃ negative, exponentDigits d negative (dropSign s) = .ok (n, rest) := by
    unfold exponentPart at h
    unfold dropSign
    split at h
    · exact ⟨false, h⟩
    · exact ⟨true, h⟩
    · exact ⟨false, h⟩
  obtain ⟨negative, h⟩ := hdigits
  obtain ⟨hstart, hrest⟩ := skipExponent_of_exponentDigits h
  rw [skipExponent, if_pos hstart, hrest]

lemma skipExponentOrEnd_of_exponentOrEnd (h : exponentOrEnd d s = .ok (n, rest)) :
    skipExponentOrEnd s = .ok rest := by
  unfold exponentOrEnd at h
  unfold skipExponentOrEnd
  split at h
  · exact skipExponent_of_exponentPart h
  · exact skipExponent_of_exponentPart h
  · exact congrArg Except.ok (eq_of_finish h)

lemma skipFraction_of_fractionPart (h : fractionPart d s = .ok (n, rest)) : skipFraction s = .ok rest := by
  unfold fractionPart at h
  split at h
  · cases h
  · rename_i c s
    split at h
    · cases h
    · rename_i hc
      have hc : isDigit c = true := by simpa using hc
      dsimp only [dropDigits] at h
      have hexponent := skipExponentOrEnd_of_exponentOrEnd h
      rw [dropWhile_collect] at hexponent
      rw [skipFraction, startsDigit_cons, if_pos hc, hexponent]

lemma skipAfterInteger_of_afterInteger {significand dropped : Nat}
    (h : afterInteger negative significand dropped s = .ok (n, rest)) : skipAfterInteger s = .ok rest := by
  unfold afterInteger at h
  dsimp only at h
  split at h
  · exact skipFraction_of_fractionPart h
  · exact skipExponent_of_exponentPart h
  · exact skipExponent_of_exponentPart h
  · rename_i hpoint he hE
    have hrest : s = rest := by
      split at h
      · exact (Prod.mk.inj (Except.ok.inj h)).2
      · exact eq_of_finish h
    rw [skipAfterInteger, skipExponentOrEnd, hrest]
    · exact he
    · exact hE
    · exact hpoint

lemma skipDigits_of_readDigits (h : readDigits negative s = .ok (n, rest)) : skipDigits s = .ok rest := by
  unfold readDigits at h
  split at h
  · cases h
  · split at h
    · cases h
    · rename_i hstart
      rw [skipDigits, if_neg hstart]
      exact skipAfterInteger_of_afterInteger h
  · rename_i c s hzero
    split at h
    · cases h
    · rename_i hc
      have hc : isDigit c = true := by simpa using hc
      dsimp only [dropDigits] at h
      have hafter := skipAfterInteger_of_afterInteger h
      rw [dropWhile_collect] at hafter
      rw [skipDigits, startsDigit_cons, if_pos hc, List.dropWhile_cons_of_pos hc, hafter]
      exact fun _ hcons => hzero (List.cons.inj hcons).1

lemma skip_of_read (h : read s = .ok (n, rest)) : skip s = .ok rest := by
  unfold read at h
  unfold skip
  split at h
  · exact skipDigits_of_readDigits h
  · exact skipDigits_of_readDigits h

def Ends (o : Outcome Number) (x : Option Number) (rest : List Char) : Prop :=
  match x with
  | some n => o = .ok (n, rest)
  | none => ∃ left, o = .error ⟨.numberOutOfRange, left⟩

lemma Ends.eq_ok_iff {o : Outcome Number} {x : Option Number} (h : Ends o x rest) : o = .ok (n, rest) ↔ x = some n := by
  cases x with
  | some m =>
    rw [show o = .ok (m, rest) from h]
    simp
  | none =>
    obtain ⟨left, rfl⟩ := h
    simp

lemma collect_append (limit m k : Nat) (ds : List Char) (h : startsDigit tail = false) :
    collect limit m k (ds ++ tail) =
      ((collect limit m k ds).1, (collect limit m k ds).2.1, (collect limit m k ds).2.2 ++ tail) := by
  fun_induction collect limit m k ds with
  | case1 m k =>
    cases tail with
    | nil => rfl
    | cons c tail =>
      rw [startsDigit_cons] at h
      simp [collect, h]
  | case2 m k c ds next hc ih =>
    rw [List.cons_append, collect, if_pos hc]
    exact ih
  | case3 m k c ds next hc =>
    rw [List.cons_append, collect, if_neg hc]

lemma isDigit_of_mem_collect (limit m k : Nat) (h : ∀ d ∈ ds, isDigit d = true) :
    ∀ d ∈ (collect limit m k ds).2.2, isDigit d = true := by
  fun_induction collect limit m k ds with
  | case1 => exact h
  | case2 m k c ds next hc ih => exact ih (List.forall_mem_cons.mp h).2
  | case3 => exact h

lemma dropDigits_append (hds : ∀ d ∈ ds, isDigit d = true) (h : startsDigit tail = false) :
    dropDigits (ds ++ tail) = (ds.length, tail) := by
  have hboth := List.takeWhile_append_dropWhile (p := isDigit) (l := ds ++ tail)
  rw [dropWhile_digits hds h] at hboth
  rw [dropDigits, dropWhile_digits hds h, List.append_cancel_right hboth]

lemma finish_ends (d : Numeral) : ∃ x, ∀ rest, Ends (finish d rest) x rest := by
  unfold finish
  cases d.toFloat? with
  | none => exact ⟨none, fun rest => ⟨_, rfl⟩⟩
  | some x => exact ⟨some (.float x), fun rest => rfl⟩

lemma hugeExponent_ends (d : Numeral) (negative : Bool) :
    ∃ x, ∀ s, Ends (hugeExponent d negative s) x (s.dropWhile isDigit) := by
  unfold hugeExponent
  by_cases h : (d.significand != 0 && !negative) = true
  · exact ⟨none, fun s => ⟨_, if_pos h⟩⟩
  · exact ⟨some _, fun s => if_neg h⟩

lemma exponentDigits_ends (d : Numeral) (negative : Bool) (hc : isDigit c = true) (hds : ∀ d ∈ ds, isDigit d = true) :
    ∃ x, ∀ rest, Delimited rest → Ends (exponentDigits d negative (c :: (ds ++ rest))) x rest := by
  obtain ⟨n, left, heq, hleft⟩ : ∃ (n : Nat) (left : List Char), (∀ rest, Delimited rest →
      exponentDigits d negative (c :: (ds ++ rest)) =
        if startsDigit (left ++ rest) then hugeExponent d negative (left ++ rest)
        else finish { d with exponent := if negative then d.exponent - n else d.exponent + n } (left ++ rest)) ∧
      ∀ a ∈ left, isDigit a = true := by
    refine ⟨(collect largestExponent (digit c) 1 ds).1, (collect largestExponent (digit c) 1 ds).2.2, ?_,
      isDigit_of_mem_collect _ _ _ hds⟩
    intro rest h
    simp [exponentDigits, hc, collect_append _ _ _ ds (startsDigit_of_delimited h)]
  cases left with
  | nil =>
    obtain ⟨x, hx⟩ := finish_ends { d with exponent := if negative then d.exponent - n else d.exponent + n }
    refine ⟨x, fun rest h => ?_⟩
    rw [heq rest h]
    simp only [List.nil_append, startsDigit_of_delimited h, Bool.false_eq_true, if_false]
    exact hx rest
  | cons a left =>
    obtain ⟨x, hx⟩ := hugeExponent_ends d negative
    refine ⟨x, fun rest h => ?_⟩
    rw [heq rest h]
    simp only [List.cons_append, startsDigit_cons, hleft a List.mem_cons_self, if_true]
    have hend := hx (a :: left ++ rest)
    rwa [dropWhile_digits hleft (startsDigit_of_delimited h)] at hend

lemma exponentPart_ends (d : Numeral) {sign : List Char} (hs : Sign sign) (hc : isDigit c = true)
    (hds : ∀ d ∈ ds, isDigit d = true) :
    ∃ x, ∀ rest, Delimited rest → Ends (exponentPart d (sign ++ c :: (ds ++ rest))) x rest := by
  cases hs with
  | none =>
    obtain ⟨x, hx⟩ := exponentDigits_ends d false hc hds
    refine ⟨x, fun rest h => ?_⟩
    rw [List.nil_append, exponentPart]
    · exact hx rest h
    · intro r hr
      rw [(List.cons.inj hr).1] at hc
      exact absurd hc (by decide)
    · intro r hr
      rw [(List.cons.inj hr).1] at hc
      exact absurd hc (by decide)
  | plus => exact exponentDigits_ends d false hc hds
  | minus => exact exponentDigits_ends d true hc hds

lemma exponentOrEnd_of_delimited (h : Delimited rest) : exponentOrEnd d rest = finish d rest := by
  unfold exponentOrEnd
  split
  · exact absurd rfl (of_delimited_cons h).2.1
  · exact absurd rfl (of_delimited_cons h).2.2.1
  · rfl

lemma exponentOrEnd_ends (d : Numeral) {e : List Char} (he : Exponent e) :
    ∃ x, ∀ rest, Delimited rest → Ends (exponentOrEnd d (e ++ rest)) x rest := by
  cases he with
  | none =>
    obtain ⟨x, hx⟩ := finish_ends d
    refine ⟨x, fun rest h => ?_⟩
    rw [List.nil_append, exponentOrEnd_of_delimited h]
    exact hx rest
  | some he hs hc hds =>
    obtain ⟨x, hx⟩ := exponentPart_ends d hs hc hds
    refine ⟨x, fun rest h => ?_⟩
    have hend := hx rest h
    rw [← List.cons_append, ← List.append_assoc] at hend
    rcases he with rfl | rfl <;> exact hend

lemma fractionPart_ends (d : Numeral) (hc : isDigit c = true) (hds : ∀ d ∈ ds, isDigit d = true) {e : List Char}
    (he : Exponent e) :
    ∃ x, ∀ rest, Delimited rest → Ends (fractionPart d (c :: (ds ++ (e ++ rest)))) x rest := by
  have hdigits : ∀ d ∈ c :: ds, isDigit d = true := List.forall_mem_cons.mpr ⟨hc, hds⟩
  have hleft := isDigit_of_mem_collect largest64 d.significand 0 hdigits
  obtain ⟨x, hx⟩ := exponentOrEnd_ends { d with
    significand := (collect largest64 d.significand 0 (c :: ds)).1
    exponent := d.exponent - (collect largest64 d.significand 0 (c :: ds)).2.1 } he
  refine ⟨x, fun rest h => ?_⟩
  have htail := startsDigit_exponent he h
  have heq : fractionPart d (c :: ds ++ (e ++ rest)) = exponentOrEnd { d with
      significand := (collect largest64 d.significand 0 (c :: ds)).1
      exponent := d.exponent - (collect largest64 d.significand 0 (c :: ds)).2.1 } (e ++ rest) := by
    rw [List.cons_append, fractionPart.eq_def]
    simp only [hc, Bool.not_true, Bool.false_eq_true, if_false]
    rw [← List.cons_append, collect_append _ _ _ _ htail, dropDigits_append hleft htail]
  rw [← List.cons_append, heq]
  exact hx rest h

lemma afterInteger_of_delimited {significand dropped : Nat} (h : Delimited rest) :
    afterInteger negative significand dropped rest =
      if dropped == 0 then .ok (plain negative significand, rest)
      else finish ⟨negative, significand, dropped⟩ rest := by
  unfold afterInteger
  dsimp only
  split
  · exact absurd rfl (of_delimited_cons h).1
  · exact absurd rfl (of_delimited_cons h).2.1
  · exact absurd rfl (of_delimited_cons h).2.2.1
  · rfl

lemma afterInteger_ends (negative : Bool) (significand dropped : Nat) (ht : Tail t) :
    ∃ x, ∀ rest, Delimited rest → Ends (afterInteger negative significand dropped (t ++ rest)) x rest := by
  obtain ⟨f, e, hf, he, rfl⟩ := ht
  cases hf with
  | some hc hds =>
    obtain ⟨x, hx⟩ := fractionPart_ends ⟨negative, significand, dropped⟩ hc hds he
    refine ⟨x, fun rest h => ?_⟩
    have hend := hx rest h
    rw [← List.append_assoc] at hend
    exact hend
  | none =>
    cases he with
    | some he hs hc hds =>
      obtain ⟨x, hx⟩ := exponentPart_ends ⟨negative, significand, dropped⟩ hs hc hds
      refine ⟨x, fun rest h => ?_⟩
      have hend := hx rest h
      rw [← List.cons_append, ← List.append_assoc] at hend
      rcases he with rfl | rfl <;> exact hend
    | none =>
      by_cases hd : (dropped == 0) = true
      · exact ⟨some _, fun rest h => (afterInteger_of_delimited h).trans (if_pos hd)⟩
      · obtain ⟨x, hx⟩ := finish_ends ⟨negative, significand, dropped⟩
        refine ⟨x, fun rest h => ?_⟩
        rw [List.nil_append, List.nil_append, afterInteger_of_delimited h, if_neg hd]
        exact hx rest

lemma readDigits_ends (negative : Bool) {u : List Char} (hu : Unsigned u) :
    ∃ x, ∀ rest, Delimited rest → Ends (readDigits negative (u ++ rest)) x rest := by
  obtain ⟨i, t, hi, ht, rfl⟩ := hu
  cases hi with
  | zero =>
    obtain ⟨x, hx⟩ := afterInteger_ends negative 0 0 ht
    refine ⟨x, fun rest h => ?_⟩
    have heq : readDigits negative (['0'] ++ t ++ rest) = afterInteger negative 0 0 (t ++ rest) :=
      if_neg (Bool.eq_false_iff.mp (startsDigit_tail ht h))
    exact heq ▸ hx rest h
  | @digits c ds hc hne hds =>
    have hleft := isDigit_of_mem_collect largest64 (digit c) 1 hds
    obtain ⟨x, hx⟩ := afterInteger_ends negative (collect largest64 (digit c) 1 ds).1
      (collect largest64 (digit c) 1 ds).2.2.length ht
    refine ⟨x, fun rest h => ?_⟩
    have htail := startsDigit_tail ht h
    have heq : readDigits negative (c :: ds ++ t ++ rest) = afterInteger negative
        (collect largest64 (digit c) 1 ds).1 (collect largest64 (digit c) 1 ds).2.2.length (t ++ rest) := by
      rw [List.append_assoc, List.cons_append, readDigits]
      · simp only [hc, Bool.not_true, Bool.false_eq_true, if_false]
        rw [collect_append _ _ _ _ htail, dropDigits_append hleft htail]
      · exact hne
    exact heq ▸ hx rest h

lemma read_ends (ht : Form t) : ∃ x, ∀ rest, Delimited rest → Ends (read (t ++ rest)) x rest := by
  obtain ⟨u, hu, rfl | rfl⟩ := ht
  · obtain ⟨x, hx⟩ := readDigits_ends false hu
    refine ⟨x, fun rest h => ?_⟩
    rw [read]
    · exact hx rest h
    · exact hu.ne_minus
  · exact readDigits_ends true hu

structure Denotes (t : List Char) (n : Number) : Prop where
  form : Form t
  value : read t = .ok (n, [])

lemma denotes_iff (ht : Form t) (h : Delimited rest) : Denotes t n ↔ read (t ++ rest) = .ok (n, rest) := by
  obtain ⟨x, hx⟩ := read_ends ht
  have hnil := hx [] delimited_nil
  rw [List.append_nil] at hnil
  rw [(hx rest h).eq_ok_iff, ← hnil.eq_ok_iff]
  exact ⟨Denotes.value, fun hvalue => ⟨ht, hvalue⟩⟩

lemma skip_eq_ok_iff (h : Delimited rest) : skip s = .ok rest ↔ ∃ t, Form t ∧ s = t ++ rest := by
  constructor
  · exact form_of_skip
  · rintro ⟨t, ht, rfl⟩
    exact skip_form ht h

lemma read_eq_ok_iff (h : Delimited rest) : read s = .ok (n, rest) ↔ ∃ t, Denotes t n ∧ s = t ++ rest := by
  constructor
  · intro hread
    obtain ⟨t, ht, rfl⟩ := form_of_skip (skip_of_read hread)
    exact ⟨t, (denotes_iff ht h).mpr hread, rfl⟩
  · rintro ⟨t, ht, rfl⟩
    exact (denotes_iff ht.form h).mp ht

end Number

end SchemaCode.Json
