import SchemaCode.Proofs.Relation.Naming

/-! Relation names differ from each other, and the fields of a table from each other and from its columns. -/

namespace SchemaCode

lemma Resolution.fields_endsOf (r : Resolution) (t : Nat) :
    (r.endsOf t).map (·.field) = r.links.flatMap (·.fieldsOn t) := by
  have hends : ∀ l ∈ r.links, ∀ k,
      ([l.sourceEnd k, l.targetEnd k].filter (·.entity.index == t)).flatMap (fun e => [e.field]) = l.fieldsOn t := by
    intro l _ k
    by_cases hs : l.source.index = t
    · by_cases ht : l.target.index = t <;> simp [Link.fieldsOn, Link.sourceEnd, Link.targetEnd, hs, ht]
    · by_cases ht : l.target.index = t <;> simp [Link.fieldsOn, Link.sourceEnd, Link.targetEnd, hs, ht]
  rw [List.map_eq_flatMap, flatMap_endsOf hends]

namespace Schema

variable {s : Schema} {t : Nat}

lemma exists_link_of_mem_endsOf {e : End} (he : e ∈ s.resolve.endsOf t) :
    ∃ i l, s.resolve.links[i]? = some l ∧ (e.index = 2 * i ∨ e.index = 2 * i + 1) ∧ e.field ∈ l.fieldsOn t := by
  obtain ⟨hmem, ht⟩ := List.mem_filter.mp he
  have ht : e.entity.index = t := beq_iff_eq.mp ht
  obtain ⟨p, hp⟩ := List.mem_iff_getElem?.mp hmem
  obtain ⟨i, l, hl, ⟨-, rfl⟩ | ⟨-, rfl⟩⟩ := Resolution.exists_link_of_end hp
  · exact ⟨i, l, hl, .inl rfl, Link.mem_fieldsOn.mpr (.inl ⟨ht, rfl⟩)⟩
  · exact ⟨i, l, hl, .inr rfl, Link.mem_fieldsOn.mpr (.inr ⟨ht, rfl⟩)⟩

lemma nodup_fields (s : Schema) (t : Nat) : ((s.resolve.endsOf t).map (·.field)).Nodup := by
  rw [Resolution.fields_endsOf, List.nodup_flatMap]
  constructor
  · intro l hl
    obtain ⟨k, hk⟩ := List.mem_iff_getElem?.mp hl
    exact (own_fields hk t).1
  · apply (links_pairwise_clears s).imp
    intro l l' h x hx hx'
    exact (h.field t x hx').1 hx

lemma not_declares_field {e : End} (he : e ∈ s.resolve.endsOf t) : ¬ s.Declares t e.field := by
  obtain ⟨i, l, hl, -, hx⟩ := exists_link_of_mem_endsOf he
  exact ((own_fields hl t).2 _ hx).2

theorem names_distinct (s : Schema) :
    (∀ t, ((s.resolve.endsOf t).map (·.field)).Nodup ∧
        ∀ e ∈ s.resolve.endsOf t, ¬ s.Declares t e.field) ∧
      ∃ names : List String, names.Nodup ∧ names.length = s.usable.length ∧ ∀ k,
        s.resolve.ends[2 * k]?.map (·.relation) = names[k]? ∧
          s.resolve.ends[2 * k + 1]?.map (·.relation) = names[k]? := by
  refine ⟨fun t => ⟨nodup_fields s t, fun e he => not_declares_field he⟩, s.resolve.links.map (·.name), ?_, ?_, ?_⟩
  · exact List.pairwise_map.mpr ((links_pairwise_clears s).imp Link.Clears.name)
  · rw [List.length_map]
    exact length_links_draftAfter s.relationships
  · intro k
    rw [Resolution.getElem?_ends_even, Resolution.getElem?_ends_odd, List.getElem?_map, Option.map_map,
      Option.map_map]
    exact ⟨rfl, rfl⟩

lemma index_lt_of_field_eq_column {e : End} (he : e ∈ s.resolve.endsOf t) {j : Nat} {l : Link}
    (hl : s.resolve.links[j]? = some l) (h : l.Adds t e.field) : e.index < 2 * j := by
  obtain ⟨i, l', hl', hi, hx⟩ := exists_link_of_mem_endsOf he
  rcases Nat.lt_trichotomy i j with hij | rfl | hij
  · omega
  · obtain rfl := Option.some.inj (hl.symm.trans hl')
    exact absurd h ((own_fields hl t).2 _ hx).1
  · exact absurd h ((clears_of_lt hl hl' hij).field t _ hx).2

theorem added_column_ne_fields_iff (s : Schema) {j : Nat} {l : Link} {key : ForeignKey}
    (hl : s.resolve.links[j]? = some l) (hk : l.foreignKey? = some key) (hs : key.synthesized = true) :
    (∀ e ∈ s.resolve.endsOf key.owner.index, e.field ≠ key.column) ↔
      ∀ e ∈ s.resolve.endsOf key.owner.index, e.index < 2 * j → e.field ≠ key.column := by
  constructor
  · exact fun h e he _ => h e he
  · intro h e he hc
    have hadds : l.Adds key.owner.index e.field := ⟨key, hk, hs, rfl, hc.symm⟩
    exact h e he (index_lt_of_field_eq_column he hl hadds) hc

def columnAfterField : Schema where
  tables := [
    { id := "a", name := "User", columns := some [{ name := "id", type := .uuid, primary := true }] },
    { id := "b", name := "Team_id", columns := some [{ name := "id", type := .uuid, primary := true }] },
    { id := "c", name := "Team", columns := some [{ name := "id", type := .uuid, primary := true }] }]
  relationships := [
    { source := "a", target := "b", declared := some .manyToOne },
    { source := "a", target := "c", declared := some .manyToOne }]

theorem added_column_ne_fields_iff_columnAfterField :
    ∃ l key, columnAfterField.resolve.links[1]? = some l ∧ l.foreignKey? = some key ∧ key.synthesized = true ∧
      ((∀ e ∈ columnAfterField.resolve.endsOf key.owner.index, e.field ≠ key.column) ↔
        ∀ e ∈ columnAfterField.resolve.endsOf key.owner.index, e.index < 2 * 1 → e.field ≠ key.column) :=
  ⟨_, _, rfl, rfl, rfl, added_column_ne_fields_iff columnAfterField (j := 1) rfl rfl rfl⟩

theorem columnAfterField_meets :
    ∃ e ∈ columnAfterField.resolve.endsOf 0, ∃ key ∈ columnAfterField.resolve.foreignKeysOf 0,
      key.synthesized = true ∧ e.field = key.column := by
  refine ⟨_, List.mem_of_getElem? (i := 0) rfl, _, List.mem_of_getElem? (i := 1) rfl, rfl, ?_⟩
  -- the first relationship adds `team_id_id`, so `team_id` is still free when its field is claimed
  apply Names.fresh_eq_base
  rw [Bool.eq_false_iff]
  intro h
  obtain ⟨-, -, hc⟩ | h := Draft.contains_reserve_iff.mp h
  · exact absurd hc (by decide)
  · obtain ⟨hc, -⟩ | h := Draft.contains_claim_iff.mp h
    · exact Scope.noConfusion hc
    · obtain ⟨table, ht, hc⟩ | ⟨l, hl, -⟩ := (contains_members_draftAfter []).mp h
      · obtain rfl := Option.some.inj ht
        exact absurd hc (by decide)
      · exact absurd hl List.not_mem_nil

end Schema

end SchemaCode
