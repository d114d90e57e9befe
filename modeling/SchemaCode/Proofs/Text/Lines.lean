import Mathlib.Data.List.TakeWhile
import SchemaCode.Decimal.Shortest
import SchemaCode.Text.Blank
import SchemaCode.Text.Quoted

namespace SchemaCode.Text

def isBreak (c : Char) : Bool := c == '\n' || c == '\r'

def Unbroken (cs : List Char) : Prop := ∀ c ∈ cs, isBreak c = false

def OneLine (s : String) : Prop := Unbroken s.toList

instance (cs : List Char) : Decidable (Unbroken cs) := List.decidableBAll _ cs

instance (s : String) : Decidable (OneLine s) := inferInstanceAs (Decidable (Unbroken s.toList))

variable {cs ds u v w : List Char} {s t : String} {c : Char}

lemma unbroken_nil : Unbroken [] := List.forall_mem_nil _

lemma unbroken_cons : Unbroken (c :: cs) ↔ isBreak c = false ∧ Unbroken cs := List.forall_mem_cons

lemma unbroken_append : Unbroken (cs ++ ds) ↔ Unbroken cs ∧ Unbroken ds := List.forall_mem_append

lemma Unbroken.of_subset (h : Unbroken ds) (hsub : cs ⊆ ds) : Unbroken cs := fun c hc => h c (hsub hc)

lemma unbroken_replicate (n : Nat) (h : isBreak c = false) : Unbroken (List.replicate n c) := by
  intro d hd
  rwa [List.eq_of_mem_replicate hd]

lemma oneLine_append : OneLine (s ++ t) ↔ OneLine s ∧ OneLine t := by
  rw [OneLine, String.toList_append]
  exact unbroken_append

lemma oneLine_ofList : OneLine (String.ofList cs) ↔ Unbroken cs := by rw [OneLine, String.toList_ofList]

lemma isBreak_digitChar (n : Nat) : isBreak n.digitChar = false := by
  have hfeed := Nat.digitChar_ne (n := n) '\n' (by decide)
  have hreturn := Nat.digitChar_ne (n := n) '\r' (by decide)
  simp [isBreak, hfeed, hreturn]

lemma unbroken_toDigits {b : Nat} (hb : 1 < b) (n : Nat) : Unbroken (Nat.toDigits b n) := by
  induction n using Nat.strongRecOn with
  | ind n ih =>
    rw [Nat.toDigits_eq_if hb]
    split
    · exact unbroken_cons.mpr ⟨isBreak_digitChar n, unbroken_nil⟩
    · rename_i hn
      have hlt : n / b < n := Nat.div_lt_self (by omega) hb
      exact unbroken_append.mpr ⟨ih _ hlt, unbroken_cons.mpr ⟨isBreak_digitChar _, unbroken_nil⟩⟩

lemma oneLine_toString (n : Nat) : OneLine (toString n) := by
  rw [Nat.toString_eq_repr, OneLine, Nat.toList_repr]
  exact unbroken_toDigits (by decide) n

lemma oneLine_toString_int (n : Int) : OneLine (toString n) := by
  cases n with
  | ofNat n => exact oneLine_toString n
  | negSucc n => exact oneLine_append.mpr ⟨by decide, oneLine_toString (n + 1)⟩

open Decimal

lemma unbroken_text (d : Digits) : Unbroken d.text := by
  refine (unbroken_toDigits (by decide : 1 < 10) d.digits).of_subset ?_
  intro c hc
  exact List.mem_reverse.mp ((List.dropWhile_sublist _).subset (List.mem_reverse.mp hc))

lemma unbroken_plain (h : Unbroken ds) (exponent : Int) : Unbroken (plain ds exponent) := by
  have hzeros : ∀ n, Unbroken (List.replicate n '0') := fun n => unbroken_replicate n rfl
  unfold plain
  split
  · exact unbroken_append.mpr ⟨unbroken_append.mpr ⟨by decide, hzeros _⟩, h⟩
  · have hwhole := h.of_subset (List.take_subset (exponent.toNat + 1) ds)
    have hfraction := h.of_subset (List.drop_subset (exponent.toNat + 1) ds)
    simp only [unbroken_append, hwhole, hzeros, true_and]
    refine ⟨by decide, ?_⟩
    split
    · decide
    · exact hfraction

lemma unbroken_scientific (h : Unbroken ds) (exponent : Int) : Unbroken (scientific ds exponent) := by
  have hfirst := h.of_subset (List.take_subset 1 ds)
  have hfraction := h.of_subset (List.drop_subset 1 ds)
  have hexponent := unbroken_toDigits (by decide : 1 < 10) exponent.natAbs
  simp only [scientific, unbroken_append, hfirst, hexponent, true_and, and_true]
  constructor
  · split
    · exact unbroken_nil
    · exact unbroken_cons.mpr ⟨rfl, hfraction⟩
  · split <;> decide

lemma oneLine_float (l : Layout) (x : Float) : OneLine (l.float x) := by
  have hrender : ∀ d, Unbroken (l.render d) := by
    intro d
    unfold Layout.render
    split
    · exact unbroken_plain (unbroken_text d) d.exponent
    · exact unbroken_scientific (unbroken_text d) d.exponent
  rw [Layout.float, oneLine_ofList, unbroken_append]
  constructor
  · split <;> decide
  · split
    · decide
    · exact hrender _

lemma unbroken_escapeChar (c : Char) : Unbroken (escapeChar c) := by
  unfold escapeChar
  split
  · decide
  split
  · decide
  split
  · decide
  split
  · decide
  split
  · decide
  split
  · decide
  rename_i _ _ hreturn hfeed _ _
  split
  · exact unbroken_append.mpr ⟨unbroken_append.mpr ⟨by decide, unbroken_toDigits (by decide) c.toNat⟩, by decide⟩
  · exact unbroken_cons.mpr ⟨by simp [isBreak, hreturn, hfeed], unbroken_nil⟩

lemma oneLine_quoted (s : String) : OneLine (quoted s) := by
  rw [quoted, oneLine_ofList, unbroken_append]
  refine ⟨unbroken_cons.mpr ⟨rfl, ?_⟩, by decide⟩
  intro d hd
  obtain ⟨c, -, hc⟩ := List.mem_flatMap.mp hd
  exact unbroken_escapeChar c d hc

def AllBlank (cs : List Char) : Prop := ∀ c ∈ cs, blank.contains c = true

/-- The line breaks of the text, if there are any, stand in the blanks around it. -/
def BreaksAround (s : String) : Prop :=
  ∃ u v w, s.toList = u ++ (v ++ w) ∧ AllBlank u ∧ Unbroken v ∧ AllBlank w

lemma exists_toList_trim (s : String) :
    ∃ u w, s.toList = u ++ ((trim s).toList ++ w) ∧ AllBlank u ∧ AllBlank w := by
  let rest := s.toList.dropWhile blank.contains
  refine ⟨s.toList.takeWhile blank.contains, (rest.reverse.takeWhile blank.contains).reverse, ?_,
    fun c hc => List.mem_takeWhile_imp hc, fun c hc => List.mem_takeWhile_imp (List.mem_reverse.mp hc)⟩
  have hrest : (trim s).toList ++ (rest.reverse.takeWhile blank.contains).reverse = rest := by
    rw [trim, String.toList_ofList, ← List.reverse_append, List.takeWhile_append_dropWhile, List.reverse_reverse]
  rw [hrest, List.takeWhile_append_dropWhile]

lemma exists_dropWhile_blank (v : List Char) (hw : AllBlank w) :
    ∃ w', (v ++ w).dropWhile blank.contains = v.dropWhile blank.contains ++ w' ∧ AllBlank w' := by
  rw [List.dropWhile_append]
  split
  · rename_i hv
    exact ⟨[], by rw [List.isEmpty_iff.mp hv, List.dropWhile_eq_nil_iff.mpr hw, List.nil_append], List.forall_mem_nil _⟩
  · exact ⟨w, rfl, hw⟩

lemma mem_of_mem_trim (hs : s.toList = u ++ (v ++ w)) (hu : AllBlank u) (hw : AllBlank w)
    (hc : c ∈ (trim s).toList) : c ∈ v := by
  obtain ⟨w', hrest, hw'⟩ := exists_dropWhile_blank v hw
  have hback : AllBlank w'.reverse := fun d hd => hw' d (List.mem_reverse.mp hd)
  rw [trim, String.toList_ofList, hs, List.dropWhile_append_of_pos hu, hrest, List.reverse_append,
    List.dropWhile_append_of_pos hback, List.mem_reverse] at hc
  exact List.dropWhile_subset _ (List.mem_reverse.mp (List.dropWhile_subset _ hc))

lemma oneLine_trim_iff : OneLine (trim s) ↔ BreaksAround s := by
  constructor
  · intro h
    obtain ⟨u, w, hs, hu, hw⟩ := exists_toList_trim s
    exact ⟨u, (trim s).toList, w, hs, hu, h, hw⟩
  · rintro ⟨u, v, w, hs, hu, hv, hw⟩
    exact fun c hc => hv c (mem_of_mem_trim hs hu hw hc)

end SchemaCode.Text
