import Mathlib.Data.List.Basic
import SchemaCode.Json.Quoted

/-! How strings are written in a JSON text. Skipping accepts more of them than reading does. -/

namespace SchemaCode.Json.Quoted

inductive Hex : List Char → Nat → Prop
  | digits {a b c d : Char} {w x y z : Nat} (ha : hexDigit? a = some w) (hb : hexDigit? b = some x)
      (hc : hexDigit? c = some y) (hd : hexDigit? d = some z) :
      Hex [a, b, c, d] (((w * 16 + x) * 16 + y) * 16 + z)

inductive Escape : List Char → Char → Prop
  | simple {e d : Char} (h : simpleEscape? e = some d) : Escape [e] d
  | unicode {h : List Char} {n : Nat} (hn : Hex h n) (htrailing : isTrailing n = false)
      (hleading : isLeading n = false) : Escape ('u' :: h) (Char.ofNat n)
  | pair {g h : List Char} {m n : Nat} (hm : Hex g m) (hleading : isLeading m = true) (hn : Hex h n)
      (htrailing : isTrailing n = true) : Escape ('u' :: (g ++ '\\' :: 'u' :: h)) (pair m n)

/-- What stands between two quotes, and the characters that it means. -/
inductive Spells : List Char → List Char → Prop
  | nil : Spells [] []
  | plain {c : Char} {t cs : List Char} (hquote : c ≠ '"') (hescape : c ≠ '\\') (hc : ¬ c < ' ') (h : Spells t cs) :
      Spells (c :: t) (c :: cs)
  | escape {e t cs : List Char} {d : Char} (he : Escape e d) (h : Spells t cs) : Spells ('\\' :: (e ++ t)) (d :: cs)

inductive EscapeForm : List Char → Prop
  | simple {e : Char} (h : (simpleEscape? e).isSome = true) : EscapeForm [e]
  | unicode {h : List Char} {n : Nat} (hn : Hex h n) : EscapeForm ('u' :: h)

inductive Form : List Char → Prop
  | nil : Form []
  | plain {c : Char} {t : List Char} (hquote : c ≠ '"') (hescape : c ≠ '\\') (hc : ¬ c < ' ') (h : Form t) :
      Form (c :: t)
  | escape {e t : List Char} (he : EscapeForm e) (h : Form t) : Form ('\\' :: (e ++ t))

variable {s rest : List Char}

lemma readHex_eq_ok_iff {n : Nat} : readHex s = .ok (n, rest) ↔ ∃ h, Hex h n ∧ s = h ++ rest := by
  constructor
  · intro h
    unfold readHex at h
    split at h
    · split at h
      · rename_i hw hx hy hz
        simp only [Except.ok.injEq, Prod.mk.injEq] at h
        obtain ⟨rfl, rfl⟩ := h
        exact ⟨_, .digits hw hx hy hz, rfl⟩
      · cases h
    · cases h
  · rintro ⟨_, ⟨ha, hb, hc, hd⟩, rfl⟩
    simp [readHex, ha, hb, hc, hd]

lemma readTrailing_eq_ok_iff {m : Nat} {c : Char} : readTrailing m s = .ok (c, rest) ↔
    ∃ h n, Hex h n ∧ isTrailing n = true ∧ c = pair m n ∧ s = '\\' :: 'u' :: h ++ rest := by
  constructor
  · intro h
    unfold readTrailing at h
    split at h
    · cases h
    · split at h
      · cases h
      · rename_i hhex
        obtain ⟨g, hg, rfl⟩ := readHex_eq_ok_iff.mp hhex
        split at h
        · rename_i ht
          simp only [Except.ok.injEq, Prod.mk.injEq] at h
          obtain ⟨rfl, rfl⟩ := h
          exact ⟨g, _, hg, ht, rfl, rfl⟩
        · cases h
    · cases h
    · cases h
    · cases h
  · rintro ⟨h, n, hn, ht, hc, rfl⟩
    simp [readTrailing, readHex_eq_ok_iff.mpr ⟨h, hn, rfl⟩, ht, hc]

lemma isTrailing_of_isLeading {n : Nat} (h : isLeading n = true) : isTrailing n = false := by
  simp only [isLeading, Bool.and_eq_true, decide_eq_true_eq] at h
  simp only [isTrailing, Bool.and_eq_false_iff, decide_eq_false_iff_not]
  omega

lemma readUnicode_eq_ok_iff {c : Char} : readUnicode s = .ok (c, rest) ↔
    ∃ e, Escape ('u' :: e) c ∧ s = e ++ rest := by
  constructor
  · intro h
    unfold readUnicode at h
    split at h
    · cases h
    · rename_i n r hhex
      obtain ⟨g, hg, rfl⟩ := readHex_eq_ok_iff.mp hhex
      split at h
      · cases h
      · rename_i htrailing
        split at h
        · rename_i hleading
          obtain ⟨g', n', hg', htrailing', hc, rfl⟩ := readTrailing_eq_ok_iff.mp h
          exact ⟨g ++ '\\' :: 'u' :: g', hc ▸ .pair hg hleading hg' htrailing', by simp⟩
        · rename_i hleading
          simp only [Except.ok.injEq, Prod.mk.injEq] at h
          obtain ⟨rfl, rfl⟩ := h
          exact ⟨g, .unicode hg (Bool.eq_false_iff.mpr htrailing) (Bool.eq_false_iff.mpr hleading), rfl⟩
  · rintro ⟨e, he, rfl⟩
    generalize hu : 'u' :: e = u at he
    cases he with
    | simple h =>
      rw [← (List.cons.inj hu).1] at h
      exact absurd h.symm (Option.some_ne_none c)
    | unicode hn htrailing hleading =>
      obtain ⟨-, rfl⟩ := List.cons.inj hu
      simp [readUnicode, readHex_eq_ok_iff.mpr ⟨e, hn, rfl⟩, htrailing, hleading]
    | pair hm hleading hn htrailing =>
      obtain ⟨-, rfl⟩ := List.cons.inj hu
      rw [List.append_assoc, readUnicode, readHex_eq_ok_iff.mpr ⟨_, hm, rfl⟩]
      simp only [isTrailing_of_isLeading hleading, hleading, Bool.false_eq_true, if_false, if_true]
      exact readTrailing_eq_ok_iff.mpr ⟨_, _, hn, htrailing, rfl, rfl⟩

lemma readEscape_eq_ok_iff {c : Char} : readEscape s = .ok (c, rest) ↔ ∃ e, Escape e c ∧ s = e ++ rest := by
  unfold readEscape
  split
  · constructor
    · intro h
      cases h
    · rintro ⟨e, he, hs⟩
      obtain ⟨rfl, -⟩ := List.append_eq_nil_iff.mp hs.symm
      cases he
  · rw [readUnicode_eq_ok_iff]
    constructor
    · rintro ⟨e, he, rfl⟩
      exact ⟨'u' :: e, he, rfl⟩
    · rintro ⟨e, he, hs⟩
      cases e with
      | nil => cases he
      | cons u e =>
        obtain ⟨rfl, rfl⟩ := List.cons.inj hs
        exact ⟨e, he, rfl⟩
  · rename_i d r hu
    constructor
    · intro h
      split at h
      · rename_i hd
        simp only [Except.ok.injEq, Prod.mk.injEq] at h
        obtain ⟨rfl, rfl⟩ := h
        exact ⟨[d], .simple hd, rfl⟩
      · cases h
    · rintro ⟨e, he, hs⟩
      cases he with
      | simple hd =>
        obtain ⟨rfl, rfl⟩ := List.cons.inj hs
        simp [hd]
      | unicode => exact absurd (List.cons.inj hs).1 hu
      | pair => exact absurd (List.cons.inj hs).1 hu

lemma readFrom_eq_ok {before : List Char} {x : String} (h : readFrom before s = .ok (x, rest)) :
    ∃ t cs, Spells t cs ∧ s = t ++ '"' :: rest ∧ x = String.ofList (before.reverse ++ cs) := by
  fun_induction readFrom before s with
  | case1 => cases h
  | case2 before r =>
    simp only [Except.ok.injEq, Prod.mk.injEq] at h
    obtain ⟨rfl, rfl⟩ := h
    exact ⟨[], [], .nil, rfl, by simp⟩
  | case3 => cases h
  | case4 before r c r' hc _ ih =>
    obtain ⟨t, cs, ht, rfl, rfl⟩ := ih h
    obtain ⟨e, he, rfl⟩ := readEscape_eq_ok_iff.mp hc
    exact ⟨'\\' :: (e ++ t), c :: cs, .escape he ht, by simp, by simp⟩
  | case5 => cases h
  | case6 before c r hquote hescape hc ih =>
    obtain ⟨t, cs, ht, rfl, rfl⟩ := ih h
    exact ⟨c :: t, c :: cs, .plain hquote hescape hc ht, rfl, by simp⟩

lemma readFrom_escape {c : Char} (h : readEscape s = .ok (c, rest)) (before : List Char) :
    readFrom before ('\\' :: s) = readFrom (c :: before) rest := by
  rw [readFrom]
  split
  · rename_i hf
    rw [h] at hf
    cases hf
  · rename_i hc
    rw [h] at hc
    cases hc
    rfl

lemma readFrom_of_spells {t cs : List Char} (h : Spells t cs) (before rest : List Char) :
    readFrom before (t ++ '"' :: rest) = .ok (String.ofList (before.reverse ++ cs), rest) := by
  induction h generalizing before with
  | nil => simp [readFrom]
  | plain hquote hescape hc h ih =>
    rw [List.cons_append, readFrom, if_neg hc, ih]
    · simp
    · exact hquote
    · exact hescape
  | escape he h ih =>
    rw [List.cons_append, List.append_assoc, readFrom_escape (readEscape_eq_ok_iff.mpr ⟨_, he, rfl⟩), ih]
    simp

lemma read_eq_ok_iff {x : String} : read s = .ok (x, rest) ↔
    ∃ t cs, Spells t cs ∧ s = t ++ '"' :: rest ∧ x = String.ofList cs := by
  constructor
  · exact readFrom_eq_ok
  · rintro ⟨t, cs, ht, rfl, rfl⟩
    exact readFrom_of_spells ht [] rest

lemma skipEscape_eq_ok_iff : skipEscape s = .ok rest ↔ ∃ e, EscapeForm e ∧ s = e ++ rest := by
  unfold skipEscape
  split
  · constructor
    · intro h
      cases h
    · rintro ⟨e, he, hs⟩
      obtain ⟨rfl, -⟩ := List.append_eq_nil_iff.mp hs.symm
      cases he
  · rename_i r
    constructor
    · intro h
      split at h
      · cases h
      · rename_i hhex
        obtain ⟨g, hg, rfl⟩ := readHex_eq_ok_iff.mp hhex
        cases h
        exact ⟨'u' :: g, .unicode hg, rfl⟩
    · rintro ⟨e, he, hs⟩
      cases he with
      | simple he =>
        rw [← (List.cons.inj hs).1] at he
        exact absurd he Bool.false_ne_true
      | unicode hn =>
        have hr := List.cons.inj hs
        rw [readHex_eq_ok_iff.mpr ⟨_, hn, hr.2⟩]
  · rename_i d r hu
    constructor
    · intro h
      split at h
      · rename_i hd
        cases h
        exact ⟨[d], .simple hd, rfl⟩
      · cases h
    · rintro ⟨e, he, hs⟩
      cases he with
      | simple hd =>
        obtain ⟨rfl, rfl⟩ := List.cons.inj hs
        rw [if_pos hd]
      | unicode => exact absurd (List.cons.inj hs).1 hu

lemma skip_escape (h : skipEscape s = .ok rest) : skip ('\\' :: s) = skip rest := by
  rw [skip]
  split
  · rename_i hf
    rw [h] at hf
    cases hf
  · rename_i hc
    rw [h] at hc
    cases hc
    rfl

lemma skip_eq_ok (h : skip s = .ok rest) : ∃ t, Form t ∧ s = t ++ '"' :: rest := by
  fun_induction skip s with
  | case1 => cases h
  | case2 r =>
    cases h
    exact ⟨[], .nil, rfl⟩
  | case3 => cases h
  | case4 r r' hr _ ih =>
    obtain ⟨t, ht, rfl⟩ := ih h
    obtain ⟨e, he, rfl⟩ := skipEscape_eq_ok_iff.mp hr
    exact ⟨'\\' :: (e ++ t), .escape he ht, by simp⟩
  | case5 => cases h
  | case6 c r hquote hescape hc ih =>
    obtain ⟨t, ht, rfl⟩ := ih h
    exact ⟨c :: t, .plain hquote hescape hc ht, rfl⟩

lemma skip_of_form {t : List Char} (h : Form t) (rest : List Char) : skip (t ++ '"' :: rest) = .ok rest := by
  induction h with
  | nil => simp [skip]
  | plain hquote hescape hc h ih =>
    rw [List.cons_append, skip, if_neg hc, ih]
    · exact hquote
    · exact hescape
  | escape he h ih => rw [List.cons_append, List.append_assoc, skip_escape (skipEscape_eq_ok_iff.mpr ⟨_, he, rfl⟩), ih]

lemma skip_eq_ok_iff : skip s = .ok rest ↔ ∃ t, Form t ∧ s = t ++ '"' :: rest := by
  constructor
  · exact skip_eq_ok
  · rintro ⟨t, ht, rfl⟩
    exact skip_of_form ht rest

end SchemaCode.Json.Quoted
