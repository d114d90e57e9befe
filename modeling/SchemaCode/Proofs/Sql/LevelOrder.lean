import Mathlib.Order.Bounds.Basic
import SchemaCode.Proofs.Sql.Deferred

/-! The level of a table is the length of the longest path of references that leaves it. -/

namespace SchemaCode

open Relation (TransGen)

namespace Levels

variable {levels levels' : Levels} {n : Nat} {refs : Nat → List Nat}

lemma above_mono (h : ∀ p m : Nat, levels[p]? = some m → levels'[p]? = some m) {ps : List Nat}
    (habove : levels.above ps = some n) : levels'.above ps = some n := by
  induction ps generalizing n with
  | nil => exact habove
  | cons p ps ih =>
    cases hp : levels[p]? with
    | none => simp [above, hp] at habove
    | some m =>
      cases hps : levels.above ps with
      | none => simp [above, hps] at habove
      | some k =>
        rw [above, hp, hps] at habove
        rw [above, h p m hp, ih hps]
        exact habove

lemma exists_mem_of_above {ps : List Nat} (h : levels.above ps = some (n + 1)) : ∃ p ∈ ps, levels[p]? = some n := by
  induction ps with
  | nil => cases h
  | cons p ps ih =>
    rw [List.exists_mem_cons_iff]
    cases hp : levels[p]? with
    | none => simp [above, hp] at h
    | some m =>
      cases hps : levels.above ps with
      | none => simp [above, hps] at h
      | some k =>
        have hmax : max (m + 1) k = n + 1 := by simpa [above, hp, hps] using h
        rcases Nat.le_total k (m + 1) with hle | hle
        · rw [Nat.max_eq_left hle] at hmax
          exact .inl (congrArg some (Nat.succ.inj hmax))
        · rw [Nat.max_eq_right hle] at hmax
          exact .inr (ih (hmax ▸ hps))

def Exact (levels : Levels) (refs : Nat → List Nat) : Prop :=
  ∀ t n, levels[t]? = some n → levels.above (refs t) = some n

lemma exact_empty (refs : Nat → List Nat) : Exact ∅ refs := by
  intro t n h
  simp at h

lemma Exact.place (h : levels.Exact refs) (t : Nat) : (levels.place (t, refs t)).Exact refs := by
  rcases place_cases levels (t, refs t) with ⟨he, -⟩ | ⟨n, hnone, habove, he⟩
  · exact he.symm ▸ h
  · rw [he]
    intro u m hm
    rcases of_getElem?_insert hm with ⟨rfl, rfl⟩ | hm
    · exact above_mono (fun p m => getElem?_insert_of_eq_some hnone) habove
    · exact above_mono (fun p m => getElem?_insert_of_eq_some hnone) (h u m hm)

lemma Exact.sweep (h : levels.Exact refs) (us : List Nat) :
    Exact ((us.map fun t => (t, refs t)).foldl Levels.place levels) refs := by
  induction us generalizing levels with
  | nil => exact h
  | cons t us ih => exact ih (h.place t)

lemma Exact.settle (h : levels.Exact refs) (ts : List Nat) (sweeps : Nat) :
    Exact (Levels.settle (ts.map fun t => (t, refs t)) sweeps levels) refs := by
  induction sweeps generalizing levels with
  | zero => exact h
  | succ sweeps ih =>
    rw [Levels.settle]
    split
    · exact h
    · exact ih (h.sweep ts)

end Levels

namespace Resolution

variable {r : Resolution} {a b n k : Nat}

inductive Path (r : Resolution) : (n a b : Nat) → Prop
  | here (a : Nat) : Path r 0 a a
  | step {n a b c : Nat} (h : r.Refers a b) (p : Path r n b c) : Path r (n + 1) a c

lemma exact_levels (r : Resolution) : r.levels.Exact r.references := by
  rw [levels_eq]
  exact (Levels.exact_empty _).settle _ _

lemma Path.le_level (p : r.Path k a b) (h : r.levels[a]? = some n) : k ≤ n := by
  induction p generalizing n with
  | here a => exact Nat.zero_le n
  | step hr p ih =>
    obtain ⟨m, hm, hlt⟩ := exists_level_lt h hr
    exact Nat.lt_of_le_of_lt (ih hm) hlt

lemma exists_path_of_level (h : r.levels[a]? = some n) : ∃ b, r.Path n a b := by
  induction n generalizing a with
  | zero => exact ⟨a, .here a⟩
  | succ n ih =>
    obtain ⟨b, hb, hlevel⟩ := Levels.exists_mem_of_above (r.exact_levels a _ h)
    obtain ⟨c, p⟩ := ih hlevel
    exact ⟨c, .step (mem_references.mp hb) p⟩

lemma exists_path_of_level_eq_none (hr : r.Closed) (ha : a ∈ r.entities.map (·.index)) (h : r.levels[a]? = none)
    (k : Nat) : ∃ b, r.Path k a b := by
  -- a table without a level refers to another one without, so the path does not end
  induction k generalizing a with
  | zero => exact ⟨a, .here a⟩
  | succ k ih =>
    obtain ⟨b, hb, hnone⟩ := exists_refers_of_level_eq_none ha h
    obtain ⟨c, p⟩ := ih (hr.index_mem hb) hnone
    exact ⟨c, .step hb p⟩

lemma level_eq_some_iff (hr : r.Closed) (ha : a ∈ r.entities.map (·.index)) :
    r.levels[a]? = some n ↔ IsGreatest {k | ∃ b, r.Path k a b} n := by
  have hgreatest : ∀ {n}, r.levels[a]? = some n → IsGreatest {k | ∃ b, r.Path k a b} n :=
    fun h => ⟨exists_path_of_level h, fun k ⟨b, p⟩ => p.le_level h⟩
  refine ⟨hgreatest, fun h => ?_⟩
  cases hlevel : r.levels[a]? with
  | none => exact absurd (h.2 (exists_path_of_level_eq_none hr ha hlevel (n + 1))) (Nat.not_succ_le_self n)
  | some m => exact congrArg some ((hgreatest hlevel).unique h)

structure LevelOrder (r : Resolution) : Prop where
  settles : Levels.Settles ((r.entities.map (·.index)).map fun t => (t, r.references t)) ∅ r.levels
  complete : r.dependencyOrder.Perm r.entities
  once : (r.dependencyOrder.map (·.index)).Nodup
  leveled : ∀ e ∈ r.entities, r.levels[e.index]? = none ↔ r.LeadsToCycle e.index
  longest : ∀ e ∈ r.entities, ∀ n, r.levels[e.index]? = some n ↔ IsGreatest {k | ∃ b, r.Path k e.index b} n
  sorted : r.dependencyOrder.Pairwise r.Before

lemma levelOrder_of_closed (hr : r.Closed) (hs : r.entities.Pairwise (·.index < ·.index)) : r.LevelOrder := by
  have hperm := perm_dependencyOrder hs
  refine ⟨r.settles_levels, hperm, ?_, fun e he => level_eq_none_iff hr (List.mem_map_of_mem he),
    fun e he n => level_eq_some_iff hr (List.mem_map_of_mem he), pairwise_dependencyOrder hs⟩
  rw [(hperm.map _).nodup_iff, List.nodup_iff_pairwise_ne, List.pairwise_map]
  exact hs.imp Nat.ne_of_lt

end Resolution

namespace Sql

variable {s : Schema} {a b : Entity}

lemma sublist_of_refers {n : Nat} (ha : a ∈ s.entities) (hb : b ∈ s.entities)
    (h : s.resolve.levels[a.index]? = some n) (hr : s.resolve.Refers a.index b.index) :
    [b, a].Sublist s.resolve.dependencyOrder := by
  rw [← Schema.entities_resolve] at ha hb
  rw [Resolution.sublist_dependencyOrder_iff s.sorted_resolve hb ha]
  obtain ⟨m, hm, hlt⟩ := Resolution.exists_level_lt h hr
  rw [Resolution.Before, hm, h]
  exact .inl hlt

lemma addConstraint_not_mem (h : ∀ t, ¬ TransGen s.resolve.Refers t t) (c : Constraint) :
    .addConstraint c ∉ statements s.resolve := by
  rw [addConstraint_mem_iff_before]
  rintro ⟨hc, hbefore⟩
  obtain ⟨key, hkey, rfl⟩ := (constraintsOf_alike _ _).1 c hc
  obtain ⟨-, t, -, hcycle⟩ := (before_iff (Schema.mem_foreignKeysOf.mp hkey).1).mp hbefore
  exact h t hcycle

end Sql

end SchemaCode
