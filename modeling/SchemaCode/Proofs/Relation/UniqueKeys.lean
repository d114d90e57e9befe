import SchemaCode.Proofs.Relation.Keys

namespace SchemaCode

namespace Link

def heldIn (l : Link) (t : Nat) (column : String) : Bool :=
  l.foreignKey?.any fun k => k.owner.index == t && k.column == column

end Link

namespace Schema

variable {s : Schema} {t : Nat} {column : String}

lemma foreignKeyOn?_eq_bind :
    s.resolve.foreignKeyOn? t column = (s.resolve.links.find? (·.heldIn t column)).bind (·.foreignKey?) := by
  rw [foreignKeyOn?_eq, Resolution.foreignKeys, List.find?_filterMap]
  rfl

lemma Made.key_unique_iff {k : Nat} {r : Relationship} {rs : List Relationship} {a b : Entity} {l : Link}
    (m : s.Made k r rs a b l) {key : ForeignKey} (h : l.foreignKey? = some key) :
    key.unique = true ↔ l.kind = .oneToOne := by
  cases ho : r.ownership? a b with
  | none =>
    obtain ⟨j, hj, -⟩ := m.grows.junction (Relationship.ownership?_eq_none_iff.mp ho)
    simp [Link.foreignKey?, hj] at h
  | some o =>
    simp only [Link.foreignKey?, (m.grows.key o ho).1, Option.some.injEq] at h
    rw [← h, m.grows.kind]
    exact Relationship.unique_iff ho

lemma key_unique_iff {l : Link} (hl : l ∈ s.resolve.links) {key : ForeignKey} (h : l.foreignKey? = some key) :
    key.unique = true ↔ l.kind = .oneToOne := by
  obtain ⟨k, hk⟩ := List.mem_iff_getElem?.mp hl
  obtain ⟨r, rs, a, b, -, m⟩ := exists_made_of_link hk
  exact m.key_unique_iff h

lemma first_unique_iff : (∃ first, s.resolve.foreignKeyOn? t column = some first ∧ first.unique = true) ↔
    ∃ l, s.resolve.links.find? (·.heldIn t column) = some l ∧ l.kind = .oneToOne := by
  simp only [foreignKeyOn?_eq_bind, Option.bind_eq_some_iff]
  constructor
  · rintro ⟨first, ⟨l, hl, hk⟩, hu⟩
    exact ⟨l, hl, (key_unique_iff (List.mem_of_find?_eq_some hl) hk).mp hu⟩
  · rintro ⟨l, hl, hk⟩
    have hheld : l.heldIn t column = true := List.find?_some (p := fun l : Link => l.heldIn t column) hl
    obtain ⟨first, hf, -⟩ := (Option.any_eq_true _ _).mp hheld
    exact ⟨first, ⟨l, hl, hf⟩, (key_unique_iff (List.mem_of_find?_eq_some hl) hf).mpr hk⟩

lemma declared_unique {key : ForeignKey} (hk : key ∈ s.resolve.foreignKeysOf t) (hu : key.unique = true)
    {c : Column} (hc : c ∈ s.resolve.columnsAt t) (hn : c.name = key.column) : c.unique = true := by
  obtain ⟨e, -, rfl, hm⟩ := mem_columnsAt_iff.mp hc
  obtain ⟨c', -, rfl⟩ := List.mem_map.mp hm
  have hheld : key ∈ (s.resolve.foreignKeysOf e.index).filter (·.column == c'.name) :=
    List.mem_filter.mpr ⟨hk, beq_iff_eq.mpr hn.symm⟩
  have hany := List.any_eq_true.mpr ⟨key, hheld, hu⟩
  simp only [Resolution.flag, hany, Bool.or_true]

lemma unique_column_iff {key : ForeignKey} (hk : key ∈ s.resolve.foreignKeysOf t) (hu : key.unique = true) :
    (∀ c ∈ s.resolve.columnsAt t ++ s.resolve.addedColumnsOf t, c.name = key.column → c.unique = true) ↔
      s.Declares t key.column ∨
        ∃ l, s.resolve.links.find? (·.heldIn t key.column) = some l ∧ l.kind = .oneToOne := by
  rw [← first_unique_iff]
  by_cases hd : s.Declares t key.column
  · simp only [hd, true_or, iff_true]
    intro c hc hn
    rcases List.mem_append.mp hc with hc | hc
    · exact declared_unique hk hu hc hn
    · exact absurd (hn ▸ hd) (not_declares_of_mem_added hc)
  · simp only [hd, false_or]
    constructor
    · intro h
      obtain ⟨first, -, hf, -⟩ := foreignKeyOn?_of_mem hk
      obtain ⟨hc, hn⟩ := (mem_added_iff_first hd).mpr ⟨first, hf, rfl⟩
      exact ⟨first, hf, h _ (List.mem_append_right _ hc) hn⟩
    · rintro ⟨first, hf, hfu⟩ c hc hn
      rcases List.mem_append.mp hc with hc | hc
      · exact absurd (exists_mem_columnsAt_iff.mp ⟨c, hc, hn⟩) hd
      · obtain ⟨first', hf', rfl⟩ := (mem_added_iff_first hd).mp ⟨hc, hn⟩
        obtain rfl := Option.some.inj (hf.symm.trans hf')
        exact hfu

theorem oneToOne_column_unique_iff (s : Schema) {k : Nat} {r : Relationship} (h : s.usable[k]? = some r)
    (hr : r.kind = .oneToOne) :
    ∃ l key, s.resolve.links[k]? = some l ∧ l.foreignKey? = some key ∧
      ((∀ c ∈ s.resolve.columnsAt key.owner.index ++ s.resolve.addedColumnsOf key.owner.index,
          c.name = key.column → c.unique = true) ↔
        s.Declares key.owner.index key.column ∨
          ∃ first, s.resolve.links.find? (·.heldIn key.owner.index key.column) = some first ∧
            first.kind = .oneToOne) := by
  obtain ⟨rs, a, b, l, m⟩ := exists_made h
  have hsome : l.foreignKey?.isSome = true := by simp [m.grows.foreignKey?_isSome, hr]
  obtain ⟨key, hk⟩ := Option.isSome_iff_exists.mp hsome
  have hmem : key ∈ s.resolve.foreignKeys := List.mem_filterMap.mpr ⟨l, List.mem_of_getElem? m.link, hk⟩
  refine ⟨l, key, m.link, hk, unique_column_iff (mem_foreignKeysOf.mpr ⟨hmem, rfl⟩) ?_⟩
  exact (m.key_unique_iff hk).mpr (m.grows.kind.trans hr)

def sharedColumn (first second : RelationKind) : Schema where
  tables := [
    { id := "a", name := "User", columns := some [{ name := "id", type := .uuid, primary := true }] },
    { id := "b", name := "Team", columns := some [{ name := "id", type := .uuid, primary := true }] }]
  relationships := [
    { source := "a", target := "b", targetKey := "id", declared := some first },
    { source := "a", target := "b", targetKey := "id", declared := some second }]

theorem oneToOne_column_unique_iff_sharedColumn :
    (sharedColumn .manyToOne .oneToOne).usable[1]? =
        some { source := "a", target := "b", targetKey := "id", declared := some .oneToOne } ∧
      ∃ l key, (sharedColumn .manyToOne .oneToOne).resolve.links[1]? = some l ∧ l.foreignKey? = some key ∧
        ((∀ c ∈ (sharedColumn .manyToOne .oneToOne).resolve.columnsAt key.owner.index ++
              (sharedColumn .manyToOne .oneToOne).resolve.addedColumnsOf key.owner.index,
            c.name = key.column → c.unique = true) ↔
          (sharedColumn .manyToOne .oneToOne).Declares key.owner.index key.column ∨
            ∃ first, (sharedColumn .manyToOne .oneToOne).resolve.links.find?
                (·.heldIn key.owner.index key.column) = some first ∧ first.kind = .oneToOne) :=
  ⟨rfl, oneToOne_column_unique_iff (sharedColumn .manyToOne .oneToOne) (k := 1) rfl rfl⟩

theorem sharedColumn_not_unique :
    ∃ r l key c, (sharedColumn .manyToOne .oneToOne).usable[1]? = some r ∧ r.kind = .oneToOne ∧
      (sharedColumn .manyToOne .oneToOne).resolve.links[1]? = some l ∧ l.foreignKey? = some key ∧
      c ∈ (sharedColumn .manyToOne .oneToOne).resolve.addedColumnsOf key.owner.index ∧
      c.name = key.column ∧ c.unique = false :=
  ⟨_, _, _, ⟨"team_id", .uuid, false, false, true⟩, rfl, rfl, rfl, rfl, List.mem_singleton.mpr rfl, rfl, rfl⟩

end Schema

end SchemaCode
