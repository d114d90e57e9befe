import SchemaCode.Json.Skip
import SchemaCode.Proofs.Json.Values

namespace SchemaCode.Json

mutual

inductive LooseText : List Char → Prop
  | scalar {t : List Char} (h : ScalarForm t) : LooseText t
  | empty {u : List Char} (b : Bracket) (hu : Blank u) : LooseText (b.opening :: (u ++ [b.close]))
  | items {b : Bracket} {u t m : List Char} (hu : Blank u) (ht : LooseItem b t) (hm : LooseRest b m) :
      LooseText (b.opening :: (u ++ (t ++ m)))

inductive LooseItem : Bracket → List Char → Prop
  | value {t : List Char} (h : LooseText t) : LooseItem .list t
  | member {k u v t : List Char} (hk : Quoted.Form k) (hu : Blank u) (hv : Blank v) (h : LooseText t) :
      LooseItem .object ('"' :: (k ++ '"' :: (u ++ ':' :: (v ++ t))))

inductive LooseRest : Bracket → List Char → Prop
  | close {b : Bracket} {v : List Char} (hv : Blank v) : LooseRest b (v ++ [b.close])
  | more {b : Bracket} {v u t m : List Char} (hv : Blank v) (hu : Blank u) (ht : LooseItem b t) (hm : LooseRest b m) :
      LooseRest b (v ++ ',' :: (u ++ (t ++ m)))

end

inductive Closes : List Bracket → List Char → Prop
  | nil : Closes [] []
  | cons {b : Bracket} {opened : List Bracket} {m m' : List Char} (h : LooseRest b m) (h' : Closes opened m') :
      Closes (b :: opened) (m ++ m')

namespace Skip

variable {b : Bracket} {opened : List Bracket} {s t m u rest : List Char} {st : Stage}

def Stage.Ends : Stage → List Char → Prop
  | .done s, rest => s = rest
  | .value opened s, rest => ∃ u t m, Blank u ∧ LooseText t ∧ Closes opened m ∧ s = u ++ (t ++ (m ++ rest))

lemma skipKey_eq_ok_iff : skipKey s = .ok rest ↔
    ∃ u k v, Blank u ∧ Quoted.Form k ∧ Blank v ∧ s = u ++ '"' :: (k ++ '"' :: (v ++ ':' :: rest)) := by
  constructor
  · intro h
    unfold skipKey at h
    split at h
    · cases h
    · rename_i hb
      obtain ⟨-, u, hu, rfl⟩ := skipBlank_eq_cons_iff.mp hb
      split at h
      · cases h
      · rename_i hquote
        split at h
        · cases h
        · rename_i hkey
          obtain ⟨k, hk, rfl⟩ := Quoted.skip_eq_ok_iff.mp hkey
          obtain ⟨v, hv, rfl⟩ := skipColon_eq_ok_iff.mp h
          exact ⟨u, k, v, hu, hk, hv, by rw [not_not.mp hquote]⟩
  · rintro ⟨u, k, v, hu, hk, hv, rfl⟩
    have hkey : Quoted.skip (k ++ '"' :: (v ++ ':' :: rest)) = .ok (v ++ ':' :: rest) :=
      Quoted.skip_eq_ok_iff.mpr ⟨k, hk, rfl⟩
    have hcolon : skipColon (v ++ ':' :: rest) = .ok rest := skipColon_eq_ok_iff.mpr ⟨v, hv, rfl⟩
    have hblank : isBlank '"' = false := by decide
    simp [skipKey, skipBlank_append_cons hu hblank, hkey, hcolon]

/-! Whatever skipping takes is a value: what a stage ends in is traced back through the step that led to it. -/

lemma of_nextItem (h : nextItem b opened s = .ok st) (hst : st.Ends rest) : ∃ u t m m', Blank u ∧ LooseItem b t ∧
    LooseRest b m ∧ Closes opened m' ∧ s = u ++ (t ++ (m ++ (m' ++ rest))) := by
  unfold nextItem at h
  split at h
  · cases h
    obtain ⟨u, t, _, hu, ht, _ | ⟨hm, hm'⟩, rfl⟩ := hst
    exact ⟨u, t, _, _, hu, .value ht, hm, hm', by simp⟩
  · split at h
    · cases h
    · rename_i hkey
      cases h
      obtain ⟨w, t, _, hw, ht, _ | ⟨hm, hm'⟩, rfl⟩ := hst
      obtain ⟨u, k, v, hu, hk, hv, rfl⟩ := skipKey_eq_ok_iff.mp hkey
      exact ⟨u, _, _, _, hu, .member hk hv hw ht, hm, hm', by simp⟩

lemma of_afterValue (h : afterValue opened s = .ok st) (hst : st.Ends rest) : ∃ m, Closes opened m ∧ s = m ++ rest := by
  induction opened generalizing s with
  | nil =>
    cases h
    exact ⟨[], .nil, hst⟩
  | cons b opened ih =>
    unfold afterValue at h
    split at h
    · cases h
    · rename_i hb
      obtain ⟨-, v, hv, rfl⟩ := skipBlank_eq_cons_iff.mp hb
      split at h
      · rename_i hc
        obtain ⟨u, t, m, m', hu, ht, hm, hm', rfl⟩ := of_nextItem h hst
        exact ⟨_, .cons (.more hv hu ht hm) hm', by simp [hc]⟩
      split at h
      · rename_i hc
        obtain ⟨m, hm, rfl⟩ := ih h
        exact ⟨_, .cons (.close hv) hm, by simp [hc]⟩
      · cases h

lemma of_afterOpening (h : afterOpening b opened s = .ok st) (hst : st.Ends rest) :
    ∃ t m, LooseText (b.opening :: t) ∧ Closes opened m ∧ s = t ++ (m ++ rest) := by
  unfold afterOpening at h
  split at h
  · cases h
  · rename_i hb
    split at h
    · rename_i hc
      obtain ⟨-, u, hu, rfl⟩ := skipBlank_eq_cons_iff.mp hb
      obtain ⟨m, hm, rfl⟩ := of_afterValue h hst
      exact ⟨_, m, .empty b hu, hm, by simp [hc]⟩
    · obtain ⟨u, t, m, m', hu, ht, hm, hm', rfl⟩ := of_nextItem h hst
      exact ⟨_, _, .items hu ht hm, hm', by simp⟩

lemma of_advance (h : advance opened s = .ok st) (hst : st.Ends rest) : (Stage.value opened s).Ends rest := by
  unfold advance at h
  split at h
  · cases h
  · rename_i hb
    obtain ⟨-, u, hu, rfl⟩ := skipBlank_eq_cons_iff.mp hb
    split at h
    · rename_i hc
      obtain ⟨t, m, ht, hm, rfl⟩ := of_afterOpening h hst
      exact ⟨u, _, m, hu, ht, hm, by simp [hc, Bracket.opening]⟩
    split at h
    · rename_i hc
      obtain ⟨t, m, ht, hm, rfl⟩ := of_afterOpening h hst
      exact ⟨u, _, m, hu, ht, hm, by simp [hc, Bracket.opening]⟩
    split at h
    · cases h
    · rename_i hx
      obtain ⟨t, ht, hs⟩ := Scalar.form_of_skip hx
      obtain ⟨m, hm, rfl⟩ := of_afterValue h hst
      exact ⟨u, t, m, hu, .scalar ht, hm, by rw [hs]⟩

lemma of_run (h : run opened s = .ok rest) : (Stage.value opened s).Ends rest := by
  fun_induction run opened s with
  | case1 => cases h
  | case2 opened s r ha =>
    cases h
    exact of_advance ha rfl
  | case3 opened s opened' r ha _ ih => exact of_advance ha (ih h)

/-! Every value is skipped, whatever brackets are open around it. Behind it skipping goes on as if it had been there
before, so the induction is on the text of the value alone. -/

def finish : Except Fault Stage → Except Fault (List Char)
  | .error f => .error f
  | .ok (.done rest) => .ok rest
  | .ok (.value opened s) => run opened s

lemma run_eq (opened : List Bracket) (s : List Char) : run opened s = finish (advance opened s) := by
  rw [run]
  split <;> simp [finish, *]

lemma advance_scalar (hu : Blank u) (ht : ScalarForm t) (h : Delimited rest) :
    advance opened (u ++ (t ++ rest)) = afterValue opened rest := by
  have hskip := (Scalar.skip_eq_ok_iff h).mpr ⟨t, ht, rfl⟩
  obtain ⟨c, t, rfl, hlist, hobject, hc⟩ := ht.exists_cons
  obtain ⟨hblank, -⟩ := of_not_delimited_cons hc
  rw [List.cons_append] at hskip ⊢
  simp only [advance, skipBlank_append_cons hu hblank, if_neg hlist, if_neg hobject, hskip]

lemma advance_opening (hu : Blank u) : advance opened (u ++ b.opening :: s) = afterOpening b opened s := by
  have hlist : isBlank '[' = false := by decide
  have hobject : isBlank '\x7b' = false := by decide
  have hne : '\x7b' ≠ '[' := by decide
  cases b
  · simp only [advance, Bracket.opening, skipBlank_append_cons hu hlist, if_true]
  · simp only [advance, Bracket.opening, skipBlank_append_cons hu hobject, if_neg hne, if_true]

lemma afterValue_close (hu : Blank u) : afterValue (b :: opened) (u ++ b.close :: s) = afterValue opened s := by
  have hcomma : b.close ≠ ',' := by cases b <;> decide
  simp only [afterValue, skipBlank_append_cons hu b.isBlank_close, if_neg hcomma, if_true]

lemma afterValue_comma (hu : Blank u) : afterValue (b :: opened) (u ++ ',' :: s) = nextItem b opened s := by
  have hblank : isBlank ',' = false := by decide
  simp only [afterValue, skipBlank_append_cons hu hblank, if_true]

lemma afterOpening_close (hu : Blank u) : afterOpening b opened (u ++ b.close :: s) = afterValue opened s := by
  simp only [afterOpening, skipBlank_append_cons hu b.isBlank_close, if_true]

lemma afterOpening_item (hu : Blank u) (ht : ¬ Delimited t) :
    afterOpening b opened (u ++ (t ++ s)) = nextItem b opened (u ++ (t ++ s)) := by
  cases t with
  | nil => exact absurd delimited_nil ht
  | cons c t =>
    obtain ⟨hblank, hclose⟩ := of_not_delimited_cons ht
    simp only [afterOpening, List.cons_append, skipBlank_append_cons hu hblank, if_neg (hclose b)]

end Skip

lemma LooseText.not_delimited {t : List Char} (h : LooseText t) : ¬ Delimited t := by
  cases h with
  | scalar h =>
    obtain ⟨c, t, rfl, -, -, hc⟩ := h.exists_cons
    exact hc
  | empty b => exact not_delimited_opening b _
  | items => exact not_delimited_opening _ _

lemma LooseItem.not_delimited {b : Bracket} {t : List Char} (h : LooseItem b t) : ¬ Delimited t := by
  cases h with
  | value h => exact h.not_delimited
  | member => exact not_delimited_quote _

lemma LooseRest.delimited {b : Bracket} {m : List Char} (h : LooseRest b m) (s : List Char) : Delimited (m ++ s) := by
  cases h with
  | close hv =>
    rw [List.append_assoc]
    exact (delimited_close b s).blank_append hv
  | more hv =>
    rw [List.append_assoc]
    exact (delimited_comma _).blank_append hv

namespace Skip

mutual

lemma advance_text {t : List Char} (h : LooseText t) (opened : List Bracket) {u s : List Char} (hu : Blank u)
    (hs : Delimited s) : finish (advance opened (u ++ (t ++ s))) = finish (afterValue opened s) :=
  match h with
  | .scalar ht => by rw [advance_scalar hu ht hs]
  | .empty b hw => by
    rw [List.cons_append, advance_opening hu, List.append_assoc, List.singleton_append, afterOpening_close hw]
  | .items hw ht hm => by
    rw [List.cons_append, advance_opening hu, List.append_assoc, List.append_assoc,
      afterOpening_item hw ht.not_delimited, nextItem_text ht opened hw (hm.delimited s), afterValue_rest hm opened]

lemma nextItem_text {b : Bracket} {t : List Char} (h : LooseItem b t) (opened : List Bracket) {u s : List Char}
    (hu : Blank u) (hs : Delimited s) :
    finish (nextItem b opened (u ++ (t ++ s))) = finish (afterValue (b :: opened) s) :=
  match h with
  | .value ht => (run_eq (.list :: opened) _).trans (advance_text ht (.list :: opened) hu hs)
  | @LooseItem.member k v w t hk hv hw ht => by
    have hkey : skipKey (u ++ '"' :: (k ++ '"' :: (v ++ ':' :: (w ++ (t ++ s))))) = .ok (w ++ (t ++ s)) :=
      skipKey_eq_ok_iff.mpr ⟨u, k, v, hu, hk, hv, rfl⟩
    simp only [nextItem, List.cons_append, List.append_assoc, hkey]
    exact (run_eq (.object :: opened) _).trans (advance_text ht (.object :: opened) hw hs)

lemma afterValue_rest {b : Bracket} {m : List Char} (h : LooseRest b m) (opened : List Bracket) {s : List Char} :
    finish (afterValue (b :: opened) (m ++ s)) = finish (afterValue opened s) :=
  match h with
  | .close hv => by rw [List.append_assoc, List.singleton_append, afterValue_close hv]
  | .more hv hu ht hm => by
    rw [List.append_assoc, List.cons_append, afterValue_comma hv, List.append_assoc, List.append_assoc,
      nextItem_text ht opened hu (hm.delimited s), afterValue_rest hm opened]

end

lemma value_eq_ok_iff (h : Delimited rest) :
    value s = .ok rest ↔ ∃ u t, Blank u ∧ LooseText t ∧ s = u ++ (t ++ rest) := by
  constructor
  · intro hrun
    obtain ⟨u, t, _, hu, ht, ⟨⟩, rfl⟩ := of_run hrun
    exact ⟨u, t, hu, ht, rfl⟩
  · rintro ⟨u, t, hu, ht, rfl⟩
    rw [value, run_eq, advance_text ht [] hu h]
    rfl

end Skip

end SchemaCode.Json
