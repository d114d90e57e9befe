import Mathlib.Data.List.Nodup
import Std.Data.String.ToNat
import SchemaCode.Names

namespace SchemaCode.Names

lemma numbered_injective (base : String) : Function.Injective (numbered base) := by
  intro i j h
  exact Nat.repr_injective ((String.append_right_inj base).mp h)

variable {taken : String → Bool} {base : String}

lemma taken_of_taken_firstFree {tries n : Nat} (h : taken (firstFree taken base tries n) = true) :
    ∀ i ≤ tries, taken (numbered base (n + i)) = true := by
  induction tries generalizing n with
  | zero =>
    intro i hi
    obtain rfl := Nat.le_zero.mp hi
    exact h
  | succ tries ih =>
    rw [firstFree] at h
    by_cases ht : taken (numbered base n) = true
    · rw [if_pos ht] at h
      intro i hi
      cases i with
      | zero => exact ht
      | succ i =>
        have hnext := ih h i (Nat.le_of_succ_le_succ hi)
        rwa [Nat.add_right_comm, Nat.add_assoc] at hnext
    · rw [if_neg ht] at h
      exact absurd h ht

lemma exists_firstFree (taken : String → Bool) (base : String) (tries n : Nat) :
    ∃ i, firstFree taken base tries n = numbered base (n + i) ∧ ∀ j < i, taken (numbered base (n + j)) = true := by
  induction tries generalizing n with
  | zero => exact ⟨0, rfl, nofun⟩
  | succ tries ih =>
    rw [firstFree]
    by_cases ht : taken (numbered base n) = true
    · obtain ⟨i, hi, hbelow⟩ := ih (n + 1)
      refine ⟨i + 1, ?_, ?_⟩
      · rw [if_pos ht, hi, Nat.add_right_comm, Nat.add_assoc]
      · intro j hj
        cases j with
        | zero => exact ht
        | succ j =>
          have hnext := hbelow j (Nat.lt_of_succ_lt_succ hj)
          rwa [Nat.add_right_comm, Nat.add_assoc] at hnext
    · exact ⟨0, if_neg ht, nofun⟩

variable {n : Names} {scope : Scope}

lemma length_le_size {names : List String} (hn : names.Nodup)
    (h : ∀ name ∈ names, n.contains scope name = true) : names.length ≤ n.used.size := by
  have hpairs : (names.map (scope, ·)).Nodup := hn.map fun _ _ he => (Prod.mk.inj he).2
  have hused : names.map (scope, ·) ⊆ n.used.toList := by
    intro p hp
    obtain ⟨name, hname, rfl⟩ := List.mem_map.mp hp
    exact Std.HashSet.mem_toList.mpr (Std.HashSet.contains_iff_mem.mp (h name hname))
  have hle := hpairs.length_le_of_subset hused
  rwa [List.length_map, Std.HashSet.length_toList] at hle

lemma not_contains_fresh (n : Names) (scope : Scope) (base : String) :
    n.contains scope (n.fresh scope base) = false := by
  unfold fresh
  by_cases hb : n.contains scope base = true
  · rw [if_pos hb, Bool.eq_false_iff]
    intro h
    have htaken := taken_of_taken_firstFree h
    have hnodup : ((List.range (n.used.size + 1)).map fun i => numbered base (2 + i)).Nodup :=
      List.nodup_range.map fun i j he => Nat.add_left_cancel (numbered_injective base he)
    have hle := length_le_size hnodup (by
      intro name hname
      obtain ⟨i, hi, rfl⟩ := List.mem_map.mp hname
      exact htaken i (Nat.le_of_lt_succ (List.mem_range.mp hi)))
    rw [List.length_map, List.length_range] at hle
    omega
  · rw [if_neg hb]
    exact Bool.eq_false_iff.mpr hb

lemma fresh_eq_base (h : n.contains scope base = false) : n.fresh scope base = base := by
  simp [fresh, h]

lemma fresh_congr {n' : Names} {scope' : Scope} (h : ∀ x, n.contains scope x = n'.contains scope' x) (base : String) :
    n.fresh scope base = n'.fresh scope' base := by
  by_cases hb : n.contains scope base = true
  · obtain ⟨i, hi, hbelow⟩ := exists_firstFree (n.contains scope) base n.used.size 2
    obtain ⟨i', hi', hbelow'⟩ := exists_firstFree (n'.contains scope') base n'.used.size 2
    have hfresh : n.fresh scope base = numbered base (2 + i) := by rw [fresh, if_pos hb, hi]
    have hfresh' : n'.fresh scope' base = numbered base (2 + i') := by rw [fresh, if_pos (h base ▸ hb), hi']
    have hfree := n.not_contains_fresh scope base
    have hfree' := n'.not_contains_fresh scope' base
    rw [hfresh] at hfree ⊢
    rw [hfresh'] at hfree' ⊢
    rcases Nat.lt_trichotomy i i' with hlt | rfl | hlt
    · rw [h, hbelow' i hlt] at hfree
      exact absurd hfree.symm Bool.false_ne_true
    · rfl
    · rw [← h, hbelow i' hlt] at hfree'
      exact absurd hfree'.symm Bool.false_ne_true
  · rw [Bool.not_eq_true] at hb
    rw [fresh_eq_base hb, fresh_eq_base (h base ▸ hb)]

/-- `name` is `base` if that is free, and otherwise `base` with the least number from two on that makes it free. -/
def Freshens (taken : String → Prop) (base name : String) : Prop :=
  ¬ taken base ∧ name = base ∨
    taken base ∧ ∃ n, 2 ≤ n ∧ name = numbered base n ∧ ¬ taken name ∧ ∀ m, 2 ≤ m → m < n → taken (numbered base m)

lemma Freshens.not_taken {taken : String → Prop} {base name : String} (h : Freshens taken base name) :
    ¬ taken name := by
  rcases h with ⟨hbase, rfl⟩ | ⟨-, n, -, -, hname, -⟩
  · exact hbase
  · exact hname

lemma Freshens.isPrefix {taken : String → Prop} {base name : String} (h : Freshens taken base name) :
    base.toList <+: name.toList := by
  rcases h with ⟨-, rfl⟩ | ⟨-, n, -, rfl, -⟩
  · exact List.prefix_rfl
  · rw [numbered, String.toList_append]
    exact List.prefix_append _ _

lemma freshens_fresh {n : Names} {scope : Scope} {taken : String → Prop}
    (h : ∀ x, n.contains scope x = true ↔ taken x) (base : String) : Freshens taken base (n.fresh scope base) := by
  have hfree : ¬ taken (n.fresh scope base) := by
    rw [← h, Bool.not_eq_true]
    exact not_contains_fresh n scope base
  by_cases hb : n.contains scope base = true
  · obtain ⟨i, hi, hbelow⟩ := exists_firstFree (n.contains scope) base n.used.size 2
    have hfresh : n.fresh scope base = numbered base (2 + i) := by rw [fresh, if_pos hb, hi]
    refine .inr ⟨(h base).mp hb, 2 + i, Nat.le_add_right 2 i, hfresh, hfree, ?_⟩
    intro m hm hlt
    obtain ⟨j, rfl⟩ := Nat.exists_eq_add_of_le hm
    exact (h _).mp (hbelow j (Nat.lt_of_add_lt_add_left hlt))
  · refine .inl ⟨mt (h base).mpr hb, ?_⟩
    rw [Bool.not_eq_true] at hb
    exact fresh_eq_base hb

end SchemaCode.Names
