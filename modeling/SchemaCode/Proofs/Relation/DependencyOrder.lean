import SchemaCode.Proofs.Relation.Keys
import SchemaCode.Proofs.Relation.Levels

/-! A table stands behind those it refers to, unless references lead from them to a cycle. -/

namespace SchemaCode

namespace Resolution

variable {r : Resolution} {a b : Entity}

def Before (r : Resolution) (a b : Entity) : Prop :=
  match r.levels[a.index]?, r.levels[b.index]? with
  | some m, some n => m < n ∨ m = n ∧ a.index < b.index
  | some _, none => True
  | none, some _ => False
  | none, none => a.index < b.index

lemma Before.asymm (h : r.Before a b) : ¬ r.Before b a := by
  unfold Before at h ⊢
  cases ha : r.levels[a.index]? <;> cases hb : r.levels[b.index]? <;> simp [ha, hb] at h ⊢
  · omega
  · omega

lemma before_total (h : a.index ≠ b.index) : r.Before a b ∨ r.Before b a := by
  unfold Before
  cases r.levels[a.index]? <;> cases r.levels[b.index]? <;> simp
  · omega
  · omega

lemma mem_dependencyOrder : a ∈ r.dependencyOrder ↔ a ∈ r.entities := by
  have hle : ∀ n, a ∈ r.entities → r.levels[a.index]? = some n →
      n < (r.entities.filterMap fun e => r.levels[e.index]?).foldl max 0 + 1 := by
    intro n ha hn
    rw [List.foldl_max, Nat.zero_max]
    exact Nat.lt_succ_of_le (List.le_max?_getD_of_mem (List.mem_filterMap.mpr ⟨a, ha, hn⟩))
  simp only [dependencyOrder, List.mem_append, List.mem_flatMap, List.mem_range, List.mem_filter, beq_iff_eq]
  constructor
  · rintro (⟨n, -, ha, -⟩ | ⟨ha, -⟩) <;> exact ha
  · intro ha
    cases hn : r.levels[a.index]? with
    | none => exact .inr ⟨ha, rfl⟩
    | some n => exact .inl ⟨n, hle n ha hn, ha, rfl⟩

lemma pairwise_dependencyOrder (hs : r.entities.Pairwise (·.index < ·.index)) :
    r.dependencyOrder.Pairwise r.Before := by
  have hlevel : ∀ level, (r.entities.filter fun e => r.levels[e.index]? == level).Pairwise r.Before := by
    intro level
    rw [List.pairwise_filter]
    apply hs.imp
    intro a b hab ha hb
    rw [Before, beq_iff_eq.mp ha, beq_iff_eq.mp hb]
    cases level with
    | none => exact hab
    | some n => exact .inr ⟨rfl, hab⟩
  rw [dependencyOrder, List.pairwise_append, List.pairwise_flatMap]
  refine ⟨⟨fun n _ => hlevel (some n), ?_⟩, hlevel none, ?_⟩
  · apply List.pairwise_lt_range.imp
    intro m n hmn a ha b hb
    simp only [List.mem_filter, beq_iff_eq] at ha hb
    rw [Before, ha.2, hb.2]
    exact .inl hmn
  · intro a ha b hb
    simp only [List.mem_flatMap, List.mem_filter, beq_iff_eq] at ha hb
    obtain ⟨n, -, -, ha⟩ := ha
    rw [Before, ha, hb.2]
    trivial

lemma perm_dependencyOrder (hs : r.entities.Pairwise (·.index < ·.index)) :
    r.dependencyOrder.Perm r.entities := by
  rw [List.perm_ext_iff_of_nodup]
  · exact fun a => mem_dependencyOrder
  · apply (pairwise_dependencyOrder hs).imp
    rintro a b h rfl
    exact h.asymm h
  · apply hs.imp
    rintro a b h rfl
    exact Nat.lt_irrefl _ h

lemma mem_earlier_iff (hs : r.entities.Pairwise (·.index < ·.index)) {earlier later : List Entity}
    (h : r.dependencyOrder = earlier ++ b :: later) (ha : a ∈ r.entities) : a ∈ earlier ↔ r.Before a b := by
  have hp := pairwise_dependencyOrder hs
  rw [h, List.pairwise_append, List.pairwise_cons] at hp
  constructor
  · exact fun hmem => hp.2.2 a hmem b List.mem_cons_self
  · intro hab
    have hmem := mem_dependencyOrder.mpr ha
    rw [h, List.mem_append, List.mem_cons] at hmem
    rcases hmem with hmem | rfl | hmem
    · exact hmem
    · exact absurd hab hab.asymm
    · exact absurd hab (hp.2.1.1 a hmem).asymm

lemma sublist_dependencyOrder_iff (hs : r.entities.Pairwise (·.index < ·.index)) (ha : a ∈ r.entities)
    (hb : b ∈ r.entities) : [a, b].Sublist r.dependencyOrder ↔ r.Before a b := by
  constructor
  · intro h
    exact List.pairwise_pair.mp ((pairwise_dependencyOrder hs).sublist h)
  · intro h
    obtain ⟨earlier, later, horder⟩ := List.append_of_mem (mem_dependencyOrder.mpr hb)
    have hmem := (mem_earlier_iff hs horder ha).mpr h
    rw [horder]
    exact (List.singleton_sublist.mpr hmem).append (List.singleton_sublist.mpr List.mem_cons_self)

lemma owner_before_iff (hr : r.Closed) {key : ForeignKey} (hkey : key ∈ r.foreignKeys)
    (hne : key.owner.index ≠ key.referenced.index) :
    r.Before key.owner key.referenced ↔
      key.owner.index < key.referenced.index ∧ r.LeadsToCycle key.referenced.index := by
  have hrefers : r.Refers key.owner.index key.referenced.index := ⟨hne, key, hkey, rfl, rfl⟩
  rw [← level_eq_none_iff hr (List.mem_map_of_mem (hr key hkey).2), Before]
  cases hreferenced : r.levels[key.referenced.index]? with
  | none =>
    obtain ⟨c, hc, hcc⟩ := (level_eq_none_iff hr (List.mem_map_of_mem (hr key hkey).2)).mp hreferenced
    have howner := level_eq_none_of_leadsToCycle ⟨c, hc.head hrefers, hcc⟩
    simp [howner]
  | some m =>
    cases howner : r.levels[key.owner.index]? with
    | none => simp
    | some n =>
      obtain ⟨m', hm', hlt⟩ := exists_level_lt howner hrefers
      obtain rfl := Option.some.inj (hreferenced.symm.trans hm')
      simp
      omega

end Resolution

namespace Schema

variable {s : Schema}

lemma referenced_mem_entities {key : ForeignKey} (h : key ∈ s.resolve.foreignKeys) :
    key.referenced ∈ s.entities := by
  obtain ⟨i, hi⟩ := List.mem_iff_getElem?.mp h
  obtain ⟨k, r, rs, a, b, l, o, -, m, ho, rfl, -⟩ := exists_made_of_key hi
  show o.referenced ∈ s.entities
  rw [Relationship.referenced_eq ho]
  split
  · exact m.source.mem
  · exact m.target.mem

lemma junction_mem_entities {j : Junction} (h : j ∈ s.resolve.junctions) :
    j.source.entity ∈ s.entities ∧ j.target.entity ∈ s.entities := by
  have hdraft : ∀ rs, ∀ j ∈ (s.draftAfter rs).junctions,
      j.source.entity ∈ s.entities ∧ j.target.entity ∈ s.entities := by
    intro rs
    induction rs using s.draftAfter_induction with
    | start => exact fun j hj => absurd hj List.not_mem_nil
    | drop rs r n hr ih => exact ih
    | grow rs r a b l d hr ha hb hg ih =>
      rcases hg.junctions_cases with hj | ⟨-, -, hj⟩
      · exact hj ▸ ih
      · intro j hmem
        rw [hj, List.mem_append, List.mem_singleton] at hmem
        rcases hmem with hmem | rfl
        · exact ih j hmem
        · exact ⟨ha.mem, hb.mem⟩
  exact hdraft s.relationships j h

lemma closed_resolve (s : Schema) : s.resolve.Closed := by
  intro key hkey
  rw [entities_resolve]
  exact ⟨owner_mem_entities hkey, referenced_mem_entities hkey⟩

lemma sorted_resolve (s : Schema) : s.resolve.entities.Pairwise (·.index < ·.index) :=
  entities_resolve.symm ▸ s.entities_sorted

lemma mem_dependencyOrder_resolve {e : Entity} : e ∈ s.resolve.dependencyOrder ↔ e ∈ s.entities := by
  rw [Resolution.mem_dependencyOrder, entities_resolve]

end Schema

end SchemaCode
