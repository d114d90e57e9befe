import Mathlib.Data.Finset.Card
import Mathlib.Order.Bounds.Basic
import Mathlib.Order.Interval.Finset.Nat
import SchemaCode.Proofs.FreshNames

/-! Names that are asked for one after the other never meet. -/

namespace SchemaCode.Names

variable {n : Names} {scope other : Scope} {base name : String}

def inUse (n : Names) (scope : Scope) : Finset String :=
  ((n.used.toList.filter fun p => p.1 = scope).map (·.2)).toFinset

lemma mem_inUse : name ∈ n.inUse scope ↔ n.contains scope name = true := by
  have hused : (scope, name) ∈ n.used.toList ↔ n.contains scope name = true :=
    Std.HashSet.mem_toList.trans Std.HashSet.contains_iff_mem.symm
  simp [inUse, ← hused]

lemma exists_inUse_eq (scope : Scope) (taken : Finset String) : ∃ n : Names, n.inUse scope = taken := by
  refine ⟨insertAll {} scope taken.toList, ?_⟩
  ext name
  have hempty : ({} : Names).contains scope name = false := Std.HashSet.contains_empty
  simp [mem_inUse, contains_insertAll_iff, hempty]

lemma inUse_insert (n : Names) (scope : Scope) (name : String) :
    (n.insert scope name).inUse scope = n.inUse scope ∪ {name} := by
  ext x
  rw [Finset.mem_union, Finset.mem_singleton, mem_inUse, mem_inUse, contains_insert_iff, or_comm, eq_self, true_and,
    eq_comm (a := x)]

lemma inUse_insert_of_ne (h : other ≠ scope) (n : Names) (name : String) :
    (n.insert scope name).inUse other = n.inUse other := by
  ext x
  simp [mem_inUse, contains_insert_iff, h.symm]

lemma numbered_ne (base : String) (k : Nat) : base ≠ numbered base k := by
  intro h
  have hempty : toString k = "" := (String.append_right_inj base).mp (h.symm.trans String.append_empty.symm)
  have hdigits := congrArg String.toList hempty
  rw [Nat.toString_eq_repr, Nat.toList_repr] at hdigits
  exact Nat.toDigits_ne_nil hdigits

lemma le_card_of_taken {taken : Finset String} {k : Nat} (hbase : base ∈ taken)
    (hbelow : ∀ m, 2 ≤ m → m < k → numbered base m ∈ taken) : k ≤ taken.card + 1 := by
  -- the candidates below `k` are names in use, and none of them is the base
  let candidates := (Finset.Ico 2 k).image (numbered base)
  have hcard : candidates.card = k - 2 := by
    rw [Finset.card_image_of_injective _ (numbered_injective base), Nat.card_Ico]
  have hmem : ∀ name ∈ candidates, name ∈ taken.erase base := by
    intro name hname
    obtain ⟨m, hm, rfl⟩ := Finset.mem_image.mp hname
    obtain ⟨htwo, hlt⟩ := Finset.mem_Ico.mp hm
    exact Finset.mem_erase.mpr ⟨(numbered_ne base m).symm, hbelow m htwo hlt⟩
  have hle := Finset.card_le_card hmem
  have hpos := Finset.card_pos.mpr ⟨base, hbase⟩
  rw [hcard, Finset.card_erase_of_mem hbase] at hle
  omega

/-- What is given for `base`: that name itself if it is free, and otherwise the one with the least number from two on
that is. No more numbers are tried than there are names in use, and the given name is the only one that comes to be in
use. -/
structure GivesLeast (n : Names) (scope : Scope) (base : String) (given : String × Names) : Prop where
  of_free : base ∉ n.inUse scope → given.1 = base
  of_taken : base ∈ n.inUse scope → ∃ k, IsLeast {k | 2 ≤ k ∧ numbered base k ∉ n.inUse scope} k ∧
    k ≤ (n.inUse scope).card + 1 ∧ given.1 = numbered base k
  free : given.1 ∉ n.inUse scope
  inUse_eq : given.2.inUse scope = n.inUse scope ∪ {given.1}
  others : ∀ other, other ≠ scope → given.2.inUse other = n.inUse other

lemma givesLeast_claim (n : Names) (scope : Scope) (base : String) : n.GivesLeast scope base (n.claim scope base) := by
  have hgiven : Freshens (· ∈ n.inUse scope) base (n.claim scope base).1 :=
    freshens_fresh (fun _ => mem_inUse.symm) base
  refine ⟨?_, ?_, hgiven.not_taken, inUse_insert n scope _, fun _ h => inUse_insert_of_ne h n _⟩
  · intro hbase
    obtain ⟨-, hname⟩ | ⟨htaken, -⟩ := hgiven
    · exact hname
    · exact absurd htaken hbase
  · intro hbase
    obtain ⟨hfree, -⟩ | ⟨-, k, hk, hname, hfree, hbelow⟩ := hgiven
    · exact absurd hbase hfree
    · refine ⟨k, ⟨⟨hk, hname ▸ hfree⟩, ?_⟩, le_card_of_taken hbase hbelow, hname⟩
      rintro m ⟨hm, hmfree⟩
      by_contra hlt
      exact hmfree (hbelow m hm (Nat.lt_of_not_le hlt))

def claimAll (n : Names) : List (Scope × String) → List (Scope × String) × Names
  | [] => ([], n)
  | (scope, base) :: requests =>
    let (name, n) := n.claim scope base
    let (given, n) := n.claimAll requests
    ((scope, name) :: given, n)

structure KeepsApart (n : Names) (requests : List (Scope × String)) (given : List (Scope × String) × Names) : Prop where
  scopes : given.1.map (·.1) = requests.map (·.1)
  nodup : given.1.Nodup
  free : ∀ scope name, (scope, name) ∈ given.1 → name ∉ n.inUse scope
  inUse_iff : ∀ scope name, name ∈ given.2.inUse scope ↔ name ∈ n.inUse scope ∨ (scope, name) ∈ given.1

lemma GivesLeast.mem_inUse_iff {given : String × Names} (h : n.GivesLeast scope base given) :
    name ∈ given.2.inUse other ↔ name ∈ n.inUse other ∨ (other, name) = (scope, given.1) := by
  by_cases hscope : other = scope
  · subst hscope
    rw [h.inUse_eq, Finset.mem_union, Finset.mem_singleton, Prod.mk.injEq, eq_self, true_and]
  · rw [h.others other hscope, Prod.mk.injEq]
    simp [hscope]

lemma GivesLeast.keepsApart_cons {given : String × Names} {requests : List (Scope × String)}
    {later : List (Scope × String) × Names} (h : n.GivesLeast scope base given)
    (hlater : given.2.KeepsApart requests later) :
    n.KeepsApart ((scope, base) :: requests) ((scope, given.1) :: later.1, later.2) where
  scopes := by rw [List.map_cons, List.map_cons, hlater.scopes]
  nodup := by
    have hused : given.1 ∈ given.2.inUse scope := h.mem_inUse_iff.mpr (.inr rfl)
    exact List.nodup_cons.mpr ⟨fun hmem => hlater.free scope given.1 hmem hused, hlater.nodup⟩
  free other name hmem hused := by
    rcases List.mem_cons.mp hmem with he | hmem
    · obtain ⟨rfl, rfl⟩ := Prod.mk.inj he
      exact h.free hused
    · exact hlater.free other name hmem (h.mem_inUse_iff.mpr (.inl hused))
  inUse_iff other name := (hlater.inUse_iff other name).trans (by rw [h.mem_inUse_iff, or_assoc, List.mem_cons])

lemma keepsApart_claimAll (n : Names) (requests : List (Scope × String)) :
    n.KeepsApart requests (n.claimAll requests) := by
  -- the later requests find the names of the earlier ones in use
  induction requests generalizing n with
  | nil => exact ⟨rfl, List.nodup_nil, fun _ _ hmem => absurd hmem List.not_mem_nil, by simp [claimAll]⟩
  | cons request requests ih => exact (givesLeast_claim n request.1 request.2).keepsApart_cons (ih _)

theorem names_given_apart :
    (∀ scope (taken : Finset String), ∃ n : Names, n.inUse scope = taken) ∧
      (∀ (n : Names) scope base, n.GivesLeast scope base (n.claim scope base)) ∧
      ∀ (n : Names) requests, n.KeepsApart requests (n.claimAll requests) :=
  ⟨exists_inUse_eq, givesLeast_claim, keepsApart_claimAll⟩

end SchemaCode.Names
