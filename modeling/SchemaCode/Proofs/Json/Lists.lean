import SchemaCode.Json.Reader
import SchemaCode.Proofs.Json.Numbers
import SchemaCode.Proofs.Json.Strings

namespace SchemaCode.Json

def Blank (w : List Char) : Prop := ∀ c ∈ w, isBlank c = true

variable {α σ : Type} {P Q : List Char → α → Prop} {s t u v rest : List Char} {as : List α} {b : Bracket}

lemma skipBlank_append (h : Blank u) (s : List Char) : skipBlank (u ++ s) = skipBlank s :=
  List.dropWhile_append_of_pos h

lemma exists_blank (s : List Char) : ∃ u, Blank u ∧ s = u ++ skipBlank s :=
  ⟨s.takeWhile isBlank, fun _ hc => List.mem_takeWhile_imp hc, List.takeWhile_append_dropWhile.symm⟩

lemma skipBlank_cons {c : Char} (h : isBlank c = false) (s : List Char) : skipBlank (c :: s) = c :: s :=
  List.dropWhile_cons_of_neg (Bool.eq_false_iff.mp h)

lemma skipBlank_append_cons {c : Char} (hu : Blank u) (hc : isBlank c = false) (s : List Char) :
    skipBlank (u ++ c :: s) = c :: s := (skipBlank_append hu (c :: s)).trans (skipBlank_cons hc s)

lemma skipBlank_eq_cons_iff {c : Char} :
    skipBlank s = c :: rest ↔ isBlank c = false ∧ ∃ u, Blank u ∧ s = u ++ c :: rest := by
  constructor
  · intro h
    have hc := List.head?_dropWhile_not isBlank s
    rw [show s.dropWhile isBlank = c :: rest from h] at hc
    obtain ⟨u, hu, hs⟩ := exists_blank s
    exact ⟨by simpa using hc, u, hu, h ▸ hs⟩
  · rintro ⟨hc, u, hu, rfl⟩
    rw [skipBlank_append_cons hu hc]

lemma skipBlank_eq_nil_iff : skipBlank s = [] ↔ Blank s := List.dropWhile_eq_nil_iff

def Bracket.opening : Bracket → Char
  | .list => '['
  | .object => '\x7b'

lemma Bracket.isBlank_close (b : Bracket) : isBlank b.close = false := by cases b <;> decide

lemma delimited_cons {c : Char} (h : isBlank c = true ∨ c = ',' ∨ c = ']' ∨ c = '\x7d') (s : List Char) :
    Delimited (c :: s) := by
  intro d hd
  cases hd
  exact h

lemma delimited_comma (s : List Char) : Delimited (',' :: s) := delimited_cons (.inr (.inl rfl)) s

lemma delimited_close (b : Bracket) (s : List Char) : Delimited (b.close :: s) := by
  cases b
  · exact delimited_cons (.inr (.inr (.inl rfl))) s
  · exact delimited_cons (.inr (.inr (.inr rfl))) s

lemma Delimited.blank_append (h : Delimited s) (hu : Blank u) : Delimited (u ++ s) := by
  cases u with
  | nil => exact h
  | cons c u => exact delimited_cons (.inl (hu c List.mem_cons_self)) _

lemma not_delimited_opening (b : Bracket) (s : List Char) : ¬ Delimited (b.opening :: s) := by
  intro h
  have hb := h b.opening rfl
  cases b <;> exact absurd hb (by decide)

lemma of_not_delimited_cons {c : Char} (h : ¬ Delimited (c :: s)) : isBlank c = false ∧ ∀ b : Bracket, c ≠ b.close := by
  constructor
  · rw [← Bool.not_eq_true]
    exact fun hc => h (delimited_cons (.inl hc) s)
  · rintro b rfl
    exact h (delimited_close b s)

lemma exists_skipBlank_iff {P : List Char → Prop} (hP : ∀ {t}, P t → ¬ Delimited t) :
    (∃ t, P t ∧ skipBlank s = t ++ rest) ↔ ∃ u t, Blank u ∧ P t ∧ s = u ++ (t ++ rest) := by
  constructor
  · rintro ⟨t, ht, hs⟩
    obtain ⟨u, hu, hsplit⟩ := exists_blank s
    exact ⟨u, t, hu, ht, hs ▸ hsplit⟩
  · rintro ⟨u, t, hu, ht, rfl⟩
    refine ⟨t, ht, ?_⟩
    cases t with
    | nil => exact absurd delimited_nil (hP ht)
    | cons c t => rw [skipBlank_append hu, List.cons_append, skipBlank_cons (of_not_delimited_cons (hP ht)).1]

inductive Listed (P : List Char → α → Prop) : List Char → List α → Prop
  | one {u t v : List Char} {a : α} (hu : Blank u) (ht : P t a) (hv : Blank v) : Listed P (u ++ (t ++ v)) [a]
  | more {u t v s : List Char} {a : α} {as : List α} (hu : Blank u) (ht : P t a) (hv : Blank v)
      (h : Listed P s as) : Listed P (u ++ (t ++ (v ++ ',' :: s))) (a :: as)

inductive Items (P : List Char → α → Prop) : List Char → List α → Prop
  | none {u : List Char} (hu : Blank u) : Items P u []
  | some {t : List Char} {as : List α} (h : Listed P t as) : Items P t as

/-- An item is read where `P` says that one stands, and it makes the change that `change` says. -/
structure Step.Accepts (item : Step σ) (P : List Char → α → Prop) (change : σ → α → Option σ) : Prop where
  starts {t : List Char} {a : α} (h : P t a) : ¬ Delimited t
  run_iff {st st' : σ} {s rest : List Char} (h : Delimited rest) :
    item.run st s = (st', .ok rest) ↔
      ∃ u t a, Blank u ∧ P t a ∧ s = u ++ (t ++ rest) ∧ change st a = some st'

section Items

variable {item : Step σ} {change : σ → α → Option σ} {st st₁ st' : σ}

lemma itemsFrom_close (hi : item.run st s = (st₁, .ok (v ++ b.close :: rest))) (hv : Blank v) :
    itemsFrom b item st s = (st₁, .ok rest) := by
  have hskip : skipBlank (v ++ b.close :: rest) = b.close :: rest := by
    rw [skipBlank_append_cons hv b.isBlank_close]
  rw [itemsFrom]
  split
  · rename_i h
    cases hi.symm.trans h
  · rename_i h
    cases hi.symm.trans h
    split
    · rename_i hb
      cases hskip.symm.trans hb
    · rename_i hb
      cases hskip.symm.trans hb
      rw [if_pos rfl]

lemma itemsFrom_comma (hi : item.run st s = (st₁, .ok (v ++ ',' :: t))) (hv : Blank v) {c : Char} {t' : List Char}
    (ht : skipBlank t = c :: t') (hc : c ≠ b.close) : itemsFrom b item st s = itemsFrom b item st₁ t := by
  have hskip : skipBlank (v ++ ',' :: t) = ',' :: t := by
    rw [skipBlank_append_cons hv (by decide)]
  have hcomma : ',' ≠ b.close := by cases b <;> decide
  rw [itemsFrom]
  split
  · rename_i h
    cases hi.symm.trans h
  · rename_i h
    cases hi.symm.trans h
    split
    · rename_i hb
      cases hskip.symm.trans hb
    · rename_i hb
      cases hskip.symm.trans hb
      rw [if_neg hcomma, if_neg (not_not_intro rfl)]
      split
      · rename_i hd
        cases ht.symm.trans hd
      · rename_i hd
        cases ht.symm.trans hd
        rw [if_neg hc]

lemma itemsFrom_eq_ok (hitem : item.Accepts P change) (h : itemsFrom b item st s = (st', .ok rest)) :
    ∃ t as, Listed P t as ∧ s = t ++ b.close :: rest ∧ as.foldlM change st = some st' := by
  fun_induction itemsFrom b item st s with
  | case1 => cases h
  | case2 => cases h
  | case3 st s st₁ rest₁ hi rest' hb =>
    cases h
    obtain ⟨-, v, hv, rfl⟩ := skipBlank_eq_cons_iff.mp hb
    obtain ⟨u, t, a, hu, ht, rfl, ha⟩ := (hitem.run_iff ((delimited_close b rest).blank_append hv)).mp hi
    exact ⟨_, _, .one hu ht hv, by simp, by simp [ha]⟩
  | case4 => cases h
  | case5 => cases h
  | case6 => cases h
  | case7 st s st₁ rest₁ hi c rest' hb _ hcomma _ _ _ _ _ _ _ ih =>
    obtain ⟨t, as, has, rfl, hfold⟩ := ih h
    obtain rfl : c = ',' := not_not.mp hcomma
    obtain ⟨-, v, hv, rfl⟩ := skipBlank_eq_cons_iff.mp hb
    obtain ⟨u, t', a, hu, ht, rfl, ha⟩ := (hitem.run_iff ((delimited_comma _).blank_append hv)).mp hi
    exact ⟨_, _, .more hu ht hv has, by simp, by simp [ha, hfold]⟩

lemma Listed.exists_skipBlank (hP : ∀ {t a}, P t a → ¬ Delimited t) (h : Listed P t as) (s : List Char) :
    ∃ c t', skipBlank (t ++ s) = c :: t' ∧ ∀ b : Bracket, c ≠ b.close := by
  have hstart : ∀ {u t a} r, Blank u → P t a →
      ∃ c t', skipBlank (u ++ (t ++ r) ++ s) = c :: t' ∧ ∀ b : Bracket, c ≠ b.close := by
    intro u t a r hu ht
    cases t with
    | nil => exact absurd delimited_nil (hP ht)
    | cons c t =>
      obtain ⟨hc, hclose⟩ := of_not_delimited_cons (hP ht)
      exact ⟨c, t ++ (r ++ s), skipBlank_eq_cons_iff.mpr ⟨hc, u, hu, by simp⟩, hclose⟩
  cases h with
  | one hu ht hv => exact hstart _ hu ht
  | more hu ht hv h => exact hstart _ hu ht

lemma itemsFrom_listed (hitem : item.Accepts P change) (h : Listed P t as) (hst : as.foldlM change st = some st') :
    itemsFrom b item st (t ++ b.close :: rest) = (st', .ok rest) := by
  induction h generalizing st with
  | @one u t v a hu ht hv =>
    have ha : change st a = some st' := by simpa using hst
    have hi := (hitem.run_iff ((delimited_close b rest).blank_append hv)).mpr ⟨u, t, a, hu, ht, rfl, ha⟩
    rw [List.append_assoc, List.append_assoc, itemsFrom_close hi hv]
  | @more u t v s a as hu ht hv h ih =>
    obtain ⟨st₁, ha, hst⟩ : ∃ st₁, change st a = some st₁ ∧ as.foldlM change st₁ = some st' := by
      simpa [Option.bind_eq_some_iff] using hst
    have hi := (hitem.run_iff ((delimited_comma (s ++ b.close :: rest)).blank_append hv)).mpr
      ⟨u, t, a, hu, ht, rfl, ha⟩
    obtain ⟨c, t', hs, hc⟩ := h.exists_skipBlank hitem.starts (b.close :: rest)
    rw [List.append_assoc, List.append_assoc, List.append_assoc, List.cons_append, itemsFrom_comma hi hv hs (hc b),
      ih hst]

lemma items_eq_ok_iff (hitem : item.Accepts P change) :
    items b item st s = (st', .ok rest) ↔
      ∃ t as, Items P t as ∧ s = t ++ b.close :: rest ∧ as.foldlM change st = some st' := by
  constructor
  · intro h
    unfold items at h
    split at h
    · cases h
    · rename_i hb
      split at h
      · rename_i hc
        cases h
        obtain ⟨-, u, hu, rfl⟩ := skipBlank_eq_cons_iff.mp hb
        exact ⟨u, [], .none hu, by rw [hc], rfl⟩
      · obtain ⟨t, as, has, hs, hst⟩ := itemsFrom_eq_ok hitem h
        exact ⟨t, as, .some has, hs, hst⟩
  · rintro ⟨t, as, has, rfl, hst⟩
    cases has with
    | none hu =>
      cases hst
      rw [items, skipBlank_append_cons hu b.isBlank_close]
      exact if_pos rfl
    | some h =>
      obtain ⟨c, t', hs, hc⟩ := h.exists_skipBlank hitem.starts (b.close :: rest)
      rw [items, hs]
      exact (if_neg (hc b)).trans (itemsFrom_listed hitem h hst)

end Items

structure Reader.Reads (r : Reader α) (P : List Char → α → Prop) : Prop where
  starts {t : List Char} {a : α} (h : P t a) : ¬ Delimited t
  read_iff {s rest : List Char} {a : α} (h : Delimited rest) :
    r.read s = .ok (a, rest) ↔ ∃ u t, Blank u ∧ P t a ∧ s = u ++ (t ++ rest)

variable {r : Reader α}

lemma Reader.Reads.collect (h : r.Reads P) : r.collect.Accepts P (fun before a => some (a :: before)) where
  starts := h.starts
  run_iff {st st' s rest} hrest := by
    have hrun : r.collect.run st s = (st', .ok rest) ↔ ∃ a, r.read s = .ok (a, rest) ∧ a :: st = st' := by
      simp only [Reader.collect]
      cases r.read s with
      | error f => simp
      | ok p =>
        obtain ⟨a, rest'⟩ := p
        simp only [Prod.mk.injEq, Except.ok.injEq]
        constructor
        · rintro ⟨hst, hrest⟩
          exact ⟨a, ⟨rfl, hrest⟩, hst⟩
        · rintro ⟨_, ⟨rfl, hrest⟩, hst⟩
          exact ⟨hst, hrest⟩
    simp only [hrun, h.read_iff hrest, Option.some.injEq]
    constructor
    · rintro ⟨a, ⟨u, t, hu, ht, hs⟩, hst⟩
      exact ⟨u, t, a, hu, ht, hs, hst⟩
    · rintro ⟨u, t, a, hu, ht, hs, hst⟩
      exact ⟨a, ⟨u, t, hu, ht, hs⟩, hst⟩

lemma foldlM_collect (as before : List α) :
    as.foldlM (fun before a => some (a :: before)) before = some (as.reverse ++ before) := by
  induction as generalizing before with
  | nil => rfl
  | cons a as ih => simp [ih]

lemma Reader.Reads.items_eq_ok_iff (h : r.Reads P) :
    r.items b s = .ok (as, rest) ↔ ∃ t, Items P t as ∧ s = t ++ b.close :: rest := by
  have hitems : r.items b s = .ok (as, rest) ↔ Json.items b r.collect [] s = (as.reverse, .ok rest) := by
    rw [Reader.items]
    split
    · rename_i hf
      simp [hf]
    · rename_i hok
      simp [hok, List.reverse_eq_iff]
  rw [hitems, Json.items_eq_ok_iff h.collect]
  simp only [foldlM_collect, List.append_nil, Option.some.injEq, List.reverse_inj]
  constructor
  · rintro ⟨t, _, ht, hs, rfl⟩
    exact ⟨t, ht, hs⟩
  · rintro ⟨t, ht, hs⟩
    exact ⟨t, as, ht, hs, rfl⟩

lemma readKey_eq_ok_iff {k : String} : readKey s = .ok (k, rest) ↔
    ∃ u t cs, Blank u ∧ Quoted.Spells t cs ∧ k = String.ofList cs ∧ s = u ++ '"' :: (t ++ '"' :: rest) := by
  constructor
  · intro h
    unfold readKey at h
    split at h
    · rename_i hb
      obtain ⟨-, u, hu, rfl⟩ := skipBlank_eq_cons_iff.mp hb
      obtain ⟨t, cs, ht, rfl, rfl⟩ := Quoted.read_eq_ok_iff.mp h
      exact ⟨u, t, cs, hu, ht, rfl, rfl⟩
    · cases h
  · rintro ⟨u, t, cs, hu, ht, rfl, rfl⟩
    rw [readKey, skipBlank_append_cons hu (by decide)]
    exact Quoted.read_eq_ok_iff.mpr ⟨t, cs, ht, rfl, rfl⟩

lemma skipColon_eq_ok_iff : skipColon s = .ok rest ↔ ∃ u, Blank u ∧ s = u ++ ':' :: rest := by
  constructor
  · intro h
    unfold skipColon at h
    split at h
    · cases h
    · rename_i hb
      split at h
      · rename_i hc
        cases h
        obtain ⟨-, u, hu, rfl⟩ := skipBlank_eq_cons_iff.mp hb
        exact ⟨u, hu, by rw [hc]⟩
      · cases h
  · rintro ⟨u, hu, rfl⟩
    rw [skipColon, skipBlank_append_cons hu (by decide)]
    exact if_pos rfl

inductive MemberText (P : List Char → α → Prop) : List Char → String × α → Prop
  | mk {k cs u v t : List Char} {a : α} (hk : Quoted.Spells k cs) (hu : Blank u) (hv : Blank v) (ht : P t a) :
      MemberText P ('"' :: (k ++ '"' :: (u ++ ':' :: (v ++ t)))) (String.ofList cs, a)

lemma not_delimited_quote (s : List Char) : ¬ Delimited ('"' :: s) := by
  intro h
  exact absurd (h '"' rfl) (by decide)

lemma readMember_eq_ok_iff {m : String × α} : readMember r s = .ok (m, rest) ↔
    ∃ u k cs v t, Blank u ∧ Quoted.Spells k cs ∧ Blank v ∧ r.read t = .ok (m.2, rest) ∧ m.1 = String.ofList cs ∧
      s = u ++ '"' :: (k ++ '"' :: (v ++ ':' :: t)) := by
  constructor
  · intro h
    unfold readMember at h
    split at h
    · cases h
    · rename_i hkey
      obtain ⟨u, k, cs, hu, hk, rfl, rfl⟩ := readKey_eq_ok_iff.mp hkey
      split at h
      · cases h
      · rename_i hc
        obtain ⟨v, hv, rfl⟩ := skipColon_eq_ok_iff.mp hc
        split at h
        · cases h
        · rename_i ha
          cases h
          exact ⟨u, k, cs, v, _, hu, hk, hv, ha, rfl, rfl⟩
  · rintro ⟨u, k, cs, v, t, hu, hk, hv, ha, hm, rfl⟩
    have hkey : readKey (u ++ '"' :: (k ++ '"' :: (v ++ ':' :: t))) = .ok (m.1, v ++ ':' :: t) :=
      readKey_eq_ok_iff.mpr ⟨u, k, cs, hu, hk, hm, rfl⟩
    have hcolon : skipColon (v ++ ':' :: t) = .ok t := skipColon_eq_ok_iff.mpr ⟨v, hv, rfl⟩
    simp [readMember, hkey, hcolon, ha]

lemma Reader.Reads.member (h : r.Reads P) : r.member.Reads (MemberText P) where
  starts {t m} hm := by
    cases hm
    exact not_delimited_quote _
  read_iff {s rest m} hrest := by
    rw [show r.member.read s = readMember r s from rfl, readMember_eq_ok_iff]
    constructor
    · rintro ⟨u, k, cs, v, t, hu, hk, hv, ha, hm, rfl⟩
      obtain ⟨w, t, hw, ht, rfl⟩ := (h.read_iff hrest).mp ha
      obtain ⟨name, a⟩ := m
      obtain rfl : name = String.ofList cs := hm
      exact ⟨u, _, hu, .mk hk hv hw ht, by simp⟩
    · rintro ⟨u, _, hu, ⟨hk, hv, hw, ht⟩, rfl⟩
      exact ⟨u, _, _, _, _, hu, hk, hv, (h.read_iff hrest).mpr ⟨_, _, hw, ht, rfl⟩, rfl, by simp⟩

end SchemaCode.Json
