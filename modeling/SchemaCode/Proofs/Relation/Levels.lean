import Mathlib.Data.Fintype.Pigeonhole
import Mathlib.Data.Set.Finite.Basic
import Mathlib.Logic.Relation
import SchemaCode.Relation.Order

/-! Every table has a level, but for those from which references lead to a cycle. -/

namespace SchemaCode

open Relation (ReflTransGen TransGen)

lemma exists_cycle {α : Type} [Finite α] {R : α → α → Prop} (h : ∀ a, ∃ b, R a b) (a : α) :
    ∃ c, ReflTransGen R a c ∧ TransGen R c c := by
  choose next hnext using h
  have hwalk : ∀ n c, TransGen R c (next^[n + 1] c) := by
    intro n c
    induction n with
    | zero => exact .single (hnext c)
    | succ n ih =>
      rw [Function.iterate_succ_apply']
      exact ih.tail (hnext _)
  obtain ⟨i, j, hij, he⟩ := Finite.exists_ne_map_eq_of_infinite fun n => next^[n] a
  wlog hlt : i < j generalizing i j
  · exact this j i hij.symm he.symm (by omega)
  refine ⟨next^[i] a, ?_, ?_⟩
  · cases i with
    | zero => exact .refl
    | succ i => exact (hwalk i a).to_reflTransGen
  · obtain ⟨n, rfl⟩ := Nat.exists_eq_add_of_lt hlt
    have hback := hwalk n (next^[i] a)
    rwa [← Function.iterate_add_apply, Nat.add_comm, ← Nat.add_assoc, ← he] at hback

namespace Levels

variable {levels : Levels} {n : Nat}

lemma above_eq_none_iff {ps : List Nat} : levels.above ps = none ↔ ∃ p ∈ ps, levels[p]? = none := by
  induction ps with
  | nil => simp [above]
  | cons p ps ih =>
    rw [List.exists_mem_cons_iff, ← ih]
    cases hp : levels[p]? <;> cases hps : levels.above ps <;> simp [above, hp, hps]

lemma lt_of_above {ps : List Nat} (h : levels.above ps = some n) :
    ∀ p ∈ ps, ∃ m, levels[p]? = some m ∧ m < n := by
  induction ps generalizing n with
  | nil => simp
  | cons p ps ih =>
    cases hp : levels[p]? with
    | none => simp [above, hp] at h
    | some m =>
      cases hps : levels.above ps with
      | none => simp [above, hps] at h
      | some k =>
        obtain rfl : max (m + 1) k = n := by simpa [above, hp, hps] using h
        rw [List.forall_mem_cons]
        refine ⟨⟨m, hp, by omega⟩, ?_⟩
        intro q hq
        obtain ⟨m', hm', hlt⟩ := ih hps q hq
        exact ⟨m', hm', by omega⟩

lemma place_cases (levels : Levels) (t : Nat × List Nat) :
    (levels.place t = levels ∧ (levels[t.1]? = none → levels.above t.2 = none)) ∨
      ∃ n, levels[t.1]? = none ∧ levels.above t.2 = some n ∧ levels.place t = levels.insert t.1 n := by
  unfold place
  rw [Std.HashMap.contains_eq_isSome_getElem?]
  cases ht : levels[t.1]? with
  | some m => exact .inl ⟨rfl, nofun⟩
  | none =>
    cases ha : levels.above t.2 with
    | none => exact .inl ⟨rfl, fun _ => rfl⟩
    | some n => exact .inr ⟨n, rfl, rfl, rfl⟩

lemma getElem?_insert_of_eq_some {t p m : Nat} (hnone : levels[t]? = none) (h : levels[p]? = some m) :
    (levels.insert t n)[p]? = some m := by
  have hne : t ≠ p := by
    rintro rfl
    cases hnone.symm.trans h
  simp [Std.HashMap.getElem?_insert, hne, h]

lemma of_getElem?_insert {t u m : Nat} (h : (levels.insert t n)[u]? = some m) :
    t = u ∧ n = m ∨ levels[u]? = some m := by
  rw [Std.HashMap.getElem?_insert] at h
  by_cases hu : t = u
  · exact .inl ⟨hu, by simpa [hu] using h⟩
  · exact .inr (by simpa [hu] using h)

structure Sound (levels : Levels) (ts : List Nat) (refs : Nat → List Nat) : Prop where
  table : ∀ t n, levels[t]? = some n → t ∈ ts
  descends : ∀ t n, levels[t]? = some n → ∀ p ∈ refs t, ∃ m, levels[p]? = some m ∧ m < n

section Sound

variable {ts : List Nat} {refs : Nat → List Nat}

lemma sound_empty (ts : List Nat) (refs : Nat → List Nat) : Sound ∅ ts refs := ⟨by simp, by simp⟩

lemma Sound.insert (h : levels.Sound ts refs) {t : Nat} (ht : t ∈ ts) (hnone : levels[t]? = none)
    (habove : levels.above (refs t) = some n) : Sound (levels.insert t n) ts refs := by
  constructor
  · intro u m hm
    rcases of_getElem?_insert hm with ⟨rfl, -⟩ | hm
    · exact ht
    · exact h.table u m hm
  · intro u m hm p hp
    rcases of_getElem?_insert hm with ⟨rfl, rfl⟩ | hm
    · obtain ⟨k, hk, hlt⟩ := lt_of_above habove p hp
      exact ⟨k, getElem?_insert_of_eq_some hnone hk, hlt⟩
    · obtain ⟨k, hk, hlt⟩ := h.descends u m hm p hp
      exact ⟨k, getElem?_insert_of_eq_some hnone hk, hlt⟩

lemma Sound.place (h : levels.Sound ts refs) {t : Nat} (ht : t ∈ ts) :
    (levels.place (t, refs t)).Sound ts refs := by
  rcases place_cases levels (t, refs t) with ⟨he, -⟩ | ⟨n, hnone, habove, he⟩
  · exact he.symm ▸ h
  · exact he.symm ▸ h.insert ht hnone habove

lemma Sound.sweep (h : levels.Sound ts refs) {us : List Nat} (hus : us ⊆ ts) :
    Sound ((us.map fun t => (t, refs t)).foldl Levels.place levels) ts refs := by
  induction us generalizing levels with
  | nil => exact h
  | cons t us ih =>
    rw [List.cons_subset] at hus
    exact ih (h.place hus.1) hus.2

lemma Sound.settle (h : levels.Sound ts refs) (sweeps : Nat) :
    Sound (Levels.settle (ts.map fun t => (t, refs t)) sweeps levels) ts refs := by
  induction sweeps generalizing levels with
  | zero => exact h
  | succ sweeps ih =>
    rw [Levels.settle]
    split
    · exact h
    · exact ih (h.sweep (List.Subset.refl ts))

lemma Sound.size_le (h : levels.Sound ts refs) : levels.size ≤ ts.length := by
  have hkeys : levels.keys ⊆ ts := by
    intro t ht
    obtain ⟨n, hn⟩ := Option.isSome_iff_exists.mp
      (Std.HashMap.mem_iff_isSome_getElem?.mp (Std.HashMap.mem_keys.mp ht))
    exact h.table t n hn
  have hle := Std.HashMap.nodup_keys.length_le_of_subset hkeys
  rwa [Std.HashMap.length_keys] at hle

end Sound

lemma size_place (levels : Levels) (t : Nat × List Nat) :
    levels.place t = levels ∨ (levels.place t).size = levels.size + 1 := by
  rcases place_cases levels t with ⟨he, -⟩ | ⟨n, hnone, -, he⟩
  · exact .inl he
  · right
    have hmem : t.1 ∉ levels := by simp [Std.HashMap.mem_iff_isSome_getElem?, hnone]
    rw [he, Std.HashMap.size_insert, if_neg hmem]

lemma size_sweep (tables : List (Nat × List Nat)) (levels : Levels) :
    levels.size ≤ (tables.foldl place levels).size ∧
      ((tables.foldl place levels).size = levels.size → ∀ t ∈ tables, levels.place t = levels) := by
  induction tables generalizing levels with
  | nil => simp
  | cons t tables ih =>
    obtain ⟨hle, hsame⟩ := ih (levels.place t)
    rw [List.foldl_cons, List.forall_mem_cons]
    -- a table that gets a level makes the number of levels grow for good
    rcases size_place levels t with he | hsize
    · rw [he] at hle hsame ⊢
      exact ⟨hle, fun h => ⟨rfl, hsame h⟩⟩
    · refine ⟨by omega, ?_⟩
      intro h
      omega

/-- Sweeps that nothing bounds end, and lead from the first levels to the second ones. -/
inductive Settles (tables : List (Nat × List Nat)) : Levels → Levels → Prop
  | done {levels : Levels} (h : (tables.foldl Levels.place levels).size = levels.size) : Settles tables levels levels
  | more {levels settled : Levels} (h : (tables.foldl Levels.place levels).size ≠ levels.size)
      (rest : Settles tables (tables.foldl Levels.place levels) settled) : Settles tables levels settled

lemma Settles.place {tables : List (Nat × List Nat)} {settled : Levels} (h : Settles tables levels settled) :
    ∀ t ∈ tables, settled.place t = settled := by
  induction h with
  | done h => exact (size_sweep tables _).2 h
  | more h rest ih => exact ih

lemma settles_settle {ts : List Nat} {refs : Nat → List Nat} (h : levels.Sound ts refs) {sweeps : Nat}
    (hs : ts.length < levels.size + sweeps) :
    Settles (ts.map fun t => (t, refs t)) levels (settle (ts.map fun t => (t, refs t)) sweeps levels) := by
  induction sweeps generalizing levels with
  | zero =>
    have := h.size_le
    omega
  | succ sweeps ih =>
    obtain ⟨hle, -⟩ := size_sweep (ts.map fun t => (t, refs t)) levels
    rw [settle]
    by_cases he : ((ts.map fun t => (t, refs t)).foldl place levels).size = levels.size
    · simp only [he, beq_self_eq_true, if_true]
      exact .done he
    · simp only [beq_iff_eq, he, if_false]
      exact .more he (ih (h.sweep (List.Subset.refl ts)) (by omega))

end Levels

namespace Resolution

variable {r : Resolution} {a b : Nat}

def Refers (r : Resolution) (a b : Nat) : Prop :=
  a ≠ b ∧ ∃ key ∈ r.foreignKeys, key.owner.index = a ∧ key.referenced.index = b

/-- From the table at position `t` references lead to one from which they lead back to itself. -/
def LeadsToCycle (r : Resolution) (t : Nat) : Prop :=
  ∃ c, ReflTransGen r.Refers t c ∧ TransGen r.Refers c c

lemma mem_references : b ∈ r.references a ↔ r.Refers a b := by
  simp only [references, List.mem_eraseDups, List.mem_filter, List.mem_map, foreignKeysOf, beq_iff_eq, bne_iff_ne,
    Refers]
  constructor
  · rintro ⟨⟨key, ⟨hkey, ho⟩, hr⟩, hne⟩
    exact ⟨hne.symm, key, hkey, ho, hr⟩
  · rintro ⟨hne, key, hkey, ho, hr⟩
    exact ⟨⟨key, ⟨hkey, ho⟩, hr⟩, hne.symm⟩

lemma levels_eq (r : Resolution) : r.levels =
    Levels.settle ((r.entities.map (·.index)).map fun t => (t, r.references t)) (r.entities.length + 1) ∅ := by
  rw [levels, List.map_map]
  rfl

lemma sound_levels (r : Resolution) : r.levels.Sound (r.entities.map (·.index)) r.references := by
  rw [levels_eq]
  exact (Levels.sound_empty _ _).settle _

lemma settles_levels (r : Resolution) :
    Levels.Settles ((r.entities.map (·.index)).map fun t => (t, r.references t)) ∅ r.levels := by
  rw [levels_eq]
  exact Levels.settles_settle (Levels.sound_empty _ _) (by simp)

lemma exists_level_lt {n : Nat} (h : r.levels[a]? = some n) (hr : r.Refers a b) :
    ∃ m, r.levels[b]? = some m ∧ m < n :=
  r.sound_levels.descends a n h b (mem_references.mpr hr)

lemma exists_refers_of_level_eq_none (ha : a ∈ r.entities.map (·.index)) (h : r.levels[a]? = none) :
    ∃ b, r.Refers a b ∧ r.levels[b]? = none := by
  have hsettled := r.settles_levels.place (a, r.references a) (List.mem_map_of_mem ha)
  rcases Levels.place_cases r.levels (a, r.references a) with ⟨-, habove⟩ | ⟨n, -, -, hinsert⟩
  · obtain ⟨b, hb, hnone⟩ := Levels.above_eq_none_iff.mp (habove h)
    exact ⟨b, mem_references.mp hb, hnone⟩
  · have hlevel : (r.levels.place (a, r.references a))[a]? = some n := by simp [hinsert]
    rw [hsettled, h] at hlevel
    exact absurd hlevel (Option.some_ne_none n).symm

lemma exists_level_of_path {n : Nat} (h : r.levels[a]? = some n) (hp : TransGen r.Refers a b) :
    ∃ m, r.levels[b]? = some m ∧ m < n := by
  induction hp with
  | single hr => exact exists_level_lt h hr
  | tail _ hr ih =>
    obtain ⟨m, hm, hlt⟩ := ih
    obtain ⟨k, hk, hlt'⟩ := exists_level_lt hm hr
    exact ⟨k, hk, hlt'.trans hlt⟩

lemma level_eq_none_of_leadsToCycle (h : r.LeadsToCycle a) : r.levels[a]? = none := by
  obtain ⟨c, hac, hcc⟩ := h
  by_contra hn
  obtain ⟨n, hn⟩ := Option.ne_none_iff_exists'.mp hn
  have hc : ∃ m, r.levels[c]? = some m := by
    rcases Relation.reflTransGen_iff_eq_or_transGen.mp hac with rfl | hac
    · exact ⟨n, hn⟩
    · exact (exists_level_of_path hn hac).imp fun _ => And.left
  obtain ⟨m, hm⟩ := hc
  obtain ⟨k, hk, hlt⟩ := exists_level_of_path hm hcc
  obtain rfl := Option.some.inj (hm.symm.trans hk)
  exact Nat.lt_irrefl _ hlt

def Closed (r : Resolution) : Prop := ∀ key ∈ r.foreignKeys, key.owner ∈ r.entities ∧ key.referenced ∈ r.entities

lemma Closed.index_mem (hr : r.Closed) (h : r.Refers a b) : b ∈ r.entities.map (·.index) := by
  obtain ⟨-, key, hkey, -, rfl⟩ := h
  exact List.mem_map_of_mem (hr key hkey).2

lemma level_eq_none_iff (hr : r.Closed) (ha : a ∈ r.entities.map (·.index)) :
    r.levels[a]? = none ↔ r.LeadsToCycle a := by
  refine ⟨?_, level_eq_none_of_leadsToCycle⟩
  intro h
  let waiting : Set Nat := {t | t ∈ r.entities.map (·.index) ∧ r.levels[t]? = none}
  have hfinite : waiting.Finite := (r.entities.map Entity.index).finite_toSet.subset fun t ht => ht.1
  have := hfinite.to_subtype
  have hnext : ∀ v : waiting, ∃ w : waiting, r.Refers v w := by
    rintro ⟨t, ht, hnone⟩
    obtain ⟨b, hb, hbnone⟩ := exists_refers_of_level_eq_none ht hnone
    exact ⟨⟨b, hr.index_mem hb, hbnone⟩, hb⟩
  obtain ⟨c, hac, hcc⟩ := exists_cycle hnext ⟨a, ha, h⟩
  exact ⟨c, hac.lift _ fun _ _ hv => hv, hcc.lift _ fun _ _ hv => hv⟩

end Resolution

end SchemaCode
