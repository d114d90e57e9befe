import Mathlib.Data.List.Basic
import SchemaCode.Text.Lower

namespace SchemaCode.Text

namespace Run

def low (r : Run) : Nat := (r.first + r.offset).toNat

def high (r : Run) : Nat := (r.last + r.offset).toNat

def avoids (r s : Run) : Bool :=
  Nat.blt r.high s.first || Nat.blt s.last r.low ||
    Nat.beq s.step 2 && (Nat.beq r.step 2 || Nat.beq r.low r.high) && Nat.beq ((r.low + s.first) % 2) 1

def fits (r : Run) : Bool :=
  decide (0 ≤ r.first + r.offset) && (Nat.blt r.high 0xD800 || Nat.blt 0xDFFF r.low && Nat.blt r.high 0x110000) &&
    (Nat.blt r.high 0x130 || Nat.blt 0x130 r.low)

variable {r s : Run} {n : Nat}

lemma covers_iff : r.covers n = true ↔ r.first ≤ n ∧ n ≤ r.last ∧ (n - r.first) % r.step = 0 := by
  simp [covers, and_assoc]

lemma fits_iff : r.fits = true ↔ 0 ≤ r.first + r.offset ∧
    (r.high < 0xD800 ∨ 0xDFFF < r.low ∧ r.high < 0x110000) ∧ (r.high < 0x130 ∨ 0x130 < r.low) := by
  simp only [fits, Bool.and_eq_true, Bool.or_eq_true, decide_eq_true_eq, Nat.blt_eq, and_assoc]

lemma avoids_iff : r.avoids s = true ↔ (r.high < s.first ∨ s.last < r.low) ∨
    (s.step = 2 ∧ (r.step = 2 ∨ r.low = r.high)) ∧ (r.low + s.first) % 2 = 1 := by
  simp only [avoids, Bool.or_eq_true, Bool.and_eq_true, Nat.blt_eq, Nat.beq_eq]

lemma isValidChar_of_covers (hr : r.fits = true) (hn : r.covers n = true) :
    (n + r.offset).toNat.isValidChar ∧ (n + r.offset).toNat ≠ 0x130 := by
  rw [fits_iff] at hr
  rw [covers_iff] at hn
  unfold low high at hr
  unfold Nat.isValidChar
  omega

lemma not_covers_of_avoids (hr : r.fits = true) (h : r.avoids s = true) (hn : r.covers n = true) :
    ¬ s.covers (n + r.offset).toNat = true := by
  rw [fits_iff] at hr
  rw [avoids_iff] at h
  rw [covers_iff] at hn ⊢
  rintro ⟨hfirst, hlast, hstep⟩
  unfold low high at h
  rcases h with (h | h) | ⟨⟨hs, hrs | hrs⟩, hodd⟩
  · omega
  · omega
  · rw [hrs] at hn
    rw [hs] at hstep
    omega
  · rw [hs] at hstep
    omega

end Run

-- a comparison for each pair of runs, since one for each letter takes a minute
lemma lowerRuns_avoid : (lowerRuns.all fun r => lowerRuns.all r.avoids) = true := by decide +kernel

lemma lowerRuns_fit : lowerRuns.all Run.fits = true := by decide +kernel

def IsLower (c : Char) : Prop := c ≠ 'İ' ∧ ∀ r ∈ lowerRuns, ¬ r.covers c.toNat = true

instance (c : Char) : Decidable (IsLower c) :=
  decidable_of_iff (c ≠ 'İ' ∧ (lowerRuns.all fun r => !r.covers c.toNat) = true) (by simp [IsLower])

lemma toNat_ofNat {n : Nat} (h : n.isValidChar) : (Char.ofNat n).toNat = n := by
  rw [Char.ofNat, dif_pos h]
  exact UInt32.toNat_ofNatLT

lemma lowerChar_of_isLower {c : Char} (h : IsLower c) : lowerChar c = [c] := by
  have hnone : lowerRuns.find? (·.covers c.toNat) = none := List.find?_eq_none.mpr h.2
  simp [lowerChar, h.1, lowerCode, hnone, Char.ofNat_toNat]

lemma isLower_of_mem_lowerChar {c d : Char} (h : d ∈ lowerChar c) : IsLower d := by
  unfold lowerChar at h
  split at h
  · have hletter : IsLower 'i' := by decide +kernel
    have hmark : IsLower '\u0307' := by decide +kernel
    obtain rfl | rfl := List.mem_pair.mp h
    · exact hletter
    · exact hmark
  · rename_i hc
    obtain rfl := List.mem_singleton.mp h
    unfold lowerCode
    cases hf : lowerRuns.find? (·.covers c.toNat) with
    | none =>
      rw [Char.ofNat_toNat]
      exact ⟨hc, List.find?_eq_none.mp hf⟩
    | some r =>
      have hr := List.mem_of_find?_eq_some hf
      have hcovers := List.find?_some hf
      have hfits := List.all_eq_true.mp lowerRuns_fit r hr
      obtain ⟨hvalid, hne⟩ := Run.isValidChar_of_covers hfits hcovers
      refine ⟨?_, ?_⟩
      · intro he
        exact hne ((toNat_ofNat hvalid).symm.trans (congrArg Char.toNat he))
      · intro s hs
        have havoids := List.all_eq_true.mp (List.all_eq_true.mp lowerRuns_avoid r hr) s hs
        rw [toNat_ofNat hvalid]
        exact Run.not_covers_of_avoids hfits havoids hcovers

lemma isLower_of_mem_lowerAfter {before cs : List Char} {d : Char} (h : d ∈ lowerAfter before cs) :
    IsLower d := by
  induction cs generalizing before with
  | nil => exact absurd h List.not_mem_nil
  | cons c rest ih =>
    rw [lowerAfter, List.mem_append] at h
    rcases h with h | h
    · split at h
      · obtain rfl := List.mem_singleton.mp h
        decide +kernel
      · exact isLower_of_mem_lowerChar h
    · exact ih h

lemma lowerAfter_of_isLower {before cs : List Char} (h : ∀ c ∈ cs, IsLower c) : lowerAfter before cs = cs := by
  induction cs generalizing before with
  | nil => rfl
  | cons c rest ih =>
    obtain ⟨hc, hrest⟩ := List.forall_mem_cons.mp h
    have hsigma : c ≠ 'Σ' := by
      rintro rfl
      exact absurd hc (by decide +kernel)
    rw [lowerAfter, ih hrest]
    simp [hsigma, lowerChar_of_isLower hc]

lemma lower_eq_self_iff {s : String} : lower s = s ↔ ∀ c ∈ s.toList, IsLower c := by
  constructor
  · intro h c hc
    rw [← h, lower, String.toList_ofList] at hc
    exact isLower_of_mem_lowerAfter hc
  · intro h
    rw [lower, lowerAfter_of_isLower h, String.ofList_toList]

theorem lower_lower (s : String) : lower (lower s) = lower s := by
  rw [lower_eq_self_iff, lower, String.toList_ofList]
  exact fun _ => isLower_of_mem_lowerAfter

lemma lower_append_eq_self_iff {s t : String} : lower (s ++ t) = s ++ t ↔ lower s = s ∧ lower t = t := by
  simp only [lower_eq_self_iff, String.toList_append, List.forall_mem_append]

lemma isLower_of_isDigit {c : Char} (h : c.isDigit = true) : IsLower c := by
  have hfirst : (lowerRuns.all fun r => Nat.blt 0x39 r.first) = true := by decide +kernel
  have hc : c.toNat ≤ 0x39 := (Char.isDigit_iff_toNat.mp h).2
  refine ⟨?_, ?_⟩
  · rintro rfl
    exact absurd hc (by decide)
  · intro r hr
    have hlt := Nat.blt_eq.mp (List.all_eq_true.mp hfirst r hr)
    rw [Run.covers_iff]
    omega

lemma lower_toString (n : Nat) : lower (toString n) = toString n := by
  rw [lower_eq_self_iff]
  intro c hc
  rw [Nat.toString_eq_repr, Nat.toList_repr] at hc
  exact isLower_of_isDigit (Nat.isDigit_of_mem_toDigits (by decide) (by decide) hc)

end SchemaCode.Text
