import Mathlib.Data.List.Nodup
import SchemaCode.Proofs.Relation.History

namespace SchemaCode

lemma filter_and_eq_toList_find? {α : Type} {p q : α → Bool} {xs : List α}
    (h : ∀ i x, xs[i]? = some x → p x = true → (q x = true ↔ ∀ y ∈ xs.take i, p y = false)) :
    (xs.filter fun x => p x && q x) = (xs.find? p).toList := by
  induction xs using List.reverseRecOn with
  | nil => rfl
  | append_singleton xs x ih =>
    have hxs : (xs.filter fun x => p x && q x) = (xs.find? p).toList := by
      apply ih
      intro i y hy hp
      have hi := (List.getElem?_eq_some_iff.mp hy).1
      have hy' : (xs ++ [x])[i]? = some y := by rw [List.getElem?_append_left hi, hy]
      rw [h i y hy' hp, List.take_append_of_le_length (Nat.le_of_lt hi)]
    rw [List.filter_append, hxs, List.find?_append]
    -- the new last member is marked only if there is no first one yet
    by_cases hp : p x = true
    · have hq := h xs.length x (by simp) hp
      rw [List.take_left] at hq
      cases hf : xs.find? p with
      | none =>
        have : q x = true := hq.mpr (by simpa using hf)
        simp [hp, this]
      | some y =>
        have hy : p y = true := List.find?_some hf
        have : q x ≠ true := fun hx => by simp [hq.mp hx y (List.mem_of_find?_eq_some hf)] at hy
        simp [this]
    · simp [hp]

lemma Ownership.hasColumn_of_reusesLocal {o : Ownership} (h : o.reusesLocal = true) :
    o.owner.hasColumn o.localKey = true := by
  unfold Ownership.reusesLocal at h
  cases hc : o.owner.column? o.localKey with
  | none => simp [hc] at h
  | some c => exact Entity.hasColumn_of_column? hc

lemma Draft.synthesized_foreignKey_iff (d : Draft) (o : Ownership) :
    (d.foreignKey o).synthesized = true ↔ o.owner.hasColumn (d.foreignKey o).column = false ∧
      ∀ k ∈ d.foreignKeys, ¬ (k.owner.index = o.owner.index ∧ k.column = (d.foreignKey o).column) := by
  by_cases hr : o.reusesLocal = true
  · have hc := Ownership.hasColumn_of_reusesLocal hr
    simp [foreignKey, Ownership.column, hr, hc]
  · simp [foreignKey, Ownership.column, hr, stores]

namespace Schema

variable {s : Schema}

lemma exists_made_of_key {i : Nat} {key : ForeignKey} (h : s.resolve.foreignKeys[i]? = some key) :
    ∃ k r rs a b l o, s.usable[k]? = some r ∧ s.Made k r rs a b l ∧ r.ownership? a b = some o ∧
      key = (s.draftAfter rs).foreignKey o ∧
        (s.draftAfter rs).foreignKeys = s.resolve.foreignKeys.take i := by
  obtain ⟨before, l, after, hlinks, hl, hbefore⟩ := split_of_getElem?_filterMap h
  change s.draft.links = _ at hlinks
  obtain ⟨r, rs, a, b, hr, m⟩ := exists_made_of_link (s := s) (k := before.length) (l := l) (by simp [hlinks])
  have hkeys : (s.draftAfter rs).foreignKeys = s.resolve.foreignKeys.take i := by
    rw [Draft.foreignKeys, m.before, hlinks, List.take_left]
    exact hbefore
  cases ho : r.ownership? a b with
  | none =>
    obtain ⟨j, hj, -⟩ := m.grows.junction (Relationship.ownership?_eq_none_iff.mp ho)
    simp [Link.foreignKey?, hj] at hl
  | some o =>
    refine ⟨_, r, rs, a, b, l, o, hr, m, ho, ?_, hkeys⟩
    simp only [Link.foreignKey?, (m.grows.key o ho).1, Option.some.injEq] at hl
    exact hl.symm

lemma owner_mem_entities {key : ForeignKey} (h : key ∈ s.resolve.foreignKeys) : key.owner ∈ s.entities := by
  obtain ⟨i, hi⟩ := List.mem_iff_getElem?.mp h
  obtain ⟨k, r, rs, a, b, l, o, -, m, ho, rfl, -⟩ := exists_made_of_key hi
  exact (m.owner_first ho).mem

lemma synthesized_iff {i : Nat} {key : ForeignKey} (h : s.resolve.foreignKeys[i]? = some key) :
    key.synthesized = true ↔ ¬ s.Declares key.owner.index key.column ∧
      ∀ k ∈ s.resolve.foreignKeys.take i, ¬ (k.owner.index = key.owner.index ∧ k.column = key.column) := by
  rw [declares_iff (owner_mem_entities (List.mem_of_getElem? h)), Bool.not_eq_true]
  obtain ⟨k, r, rs, a, b, l, o, -, m, ho, rfl, hkeys⟩ := exists_made_of_key h
  rw [← hkeys]
  exact Draft.synthesized_foreignKey_iff _ o

variable {t : Nat} {column : String}

lemma mem_foreignKeysOf {key : ForeignKey} :
    key ∈ s.resolve.foreignKeysOf t ↔ key ∈ s.resolve.foreignKeys ∧ key.owner.index = t := by
  simp [Resolution.foreignKeysOf]

lemma not_synthesized_of_declares (hd : s.Declares t column) {key : ForeignKey}
    (hk : key ∈ s.resolve.foreignKeysOf t) (hc : key.column = column) : key.synthesized = false := by
  obtain ⟨hm, rfl⟩ := mem_foreignKeysOf.mp hk
  obtain ⟨i, hi⟩ := List.mem_iff_getElem?.mp hm
  rw [← Bool.not_eq_true, synthesized_iff hi]
  exact fun h => h.1 (hc ▸ hd)

lemma foreignKeyOn?_eq : s.resolve.foreignKeyOn? t column =
    s.resolve.foreignKeys.find? fun k => k.owner.index == t && k.column == column := by
  rw [Resolution.foreignKeyOn?, Resolution.foreignKeysOf, List.find?_filter]
  simp only [Bool.decide_and, Bool.decide_eq_true]

lemma filter_synthesized_eq_first (hd : ¬ s.Declares t column) :
    ((s.resolve.foreignKeysOf t).filter fun k => k.column == column && k.synthesized) =
      (s.resolve.foreignKeyOn? t column).toList := by
  rw [foreignKeyOn?_eq, ← filter_and_eq_toList_find? (q := (·.synthesized)), Resolution.foreignKeysOf,
    List.filter_filter]
  · congr
    funext k
    rw [Bool.and_comm, Bool.and_assoc]
  · intro i key hi hp
    obtain ⟨rfl, rfl⟩ : key.owner.index = t ∧ key.column = column := by simpa using hp
    rw [synthesized_iff hi]
    simp [hd]

lemma entities_resolve : s.resolve.entities = s.entities := entities_draftAfter _

lemma columnsAt_index {e : Entity} (he : e ∈ s.entities) :
    s.resolve.columnsAt e.index = s.resolve.columnsOf e := by
  unfold Resolution.columnsAt
  rw [entities_resolve]
  cases hf : s.entities.find? (·.index == e.index) with
  | none => exact absurd (beq_self_eq_true e.index) (List.find?_eq_none.mp hf e he)
  | some e' =>
    have hi : e'.index = e.index := by simpa using List.find?_some hf
    rw [eq_of_index_eq (List.mem_of_find?_eq_some hf) he hi]

lemma columnsAt_eq_nil (h : ∀ e ∈ s.entities, e.index ≠ t) : s.resolve.columnsAt t = [] := by
  unfold Resolution.columnsAt
  rw [entities_resolve, List.find?_eq_none.mpr]
  simpa using h

lemma mem_columnsAt_iff {c : Column} :
    c ∈ s.resolve.columnsAt t ↔ ∃ e ∈ s.entities, e.index = t ∧ c ∈ s.resolve.columnsOf e := by
  constructor
  · intro hc
    by_cases h : ∃ e ∈ s.entities, e.index = t
    · obtain ⟨e, he, rfl⟩ := h
      exact ⟨e, he, rfl, columnsAt_index he ▸ hc⟩
    · rw [columnsAt_eq_nil (fun e he hi => h ⟨e, he, hi⟩)] at hc
      exact absurd hc List.not_mem_nil
  · rintro ⟨e, he, rfl, hc⟩
    exact columnsAt_index he ▸ hc

lemma exists_mem_columnsAt_iff : (∃ c ∈ s.resolve.columnsAt t, c.name = column) ↔ s.Declares t column := by
  simp only [mem_columnsAt_iff, declares_iff_exists, Resolution.columnsOf, List.mem_map]
  constructor
  · rintro ⟨_, ⟨e, he, hi, c, hc, rfl⟩, hn⟩
    exact ⟨e, he, hi, c, hc, hn⟩
  · rintro ⟨e, he, hi, c, hc, hn⟩
    exact ⟨_, ⟨e, he, hi, c, hc, rfl⟩, hn⟩

lemma mem_addedColumnsOf_iff {c : Column} : c ∈ s.resolve.addedColumnsOf t ↔
    ∃ key ∈ s.resolve.foreignKeysOf t, key.synthesized = true ∧ key.toColumn = c := by
  simp [Resolution.addedColumnsOf, Resolution.addedKeysOf, and_assoc]

lemma not_declares_of_mem_added {c : Column} (h : c ∈ s.resolve.addedColumnsOf t) :
    ¬ s.Declares t c.name := by
  obtain ⟨key, hk, hs, rfl⟩ := mem_addedColumnsOf_iff.mp h
  intro hd
  rw [not_synthesized_of_declares hd hk rfl] at hs
  exact Bool.false_ne_true hs

lemma foreignKeyOn?_of_mem {key : ForeignKey} (h : key ∈ s.resolve.foreignKeysOf t) :
    ∃ first ∈ s.resolve.foreignKeysOf t, s.resolve.foreignKeyOn? t key.column = some first ∧
      first.column = key.column := by
  have hs : (s.resolve.foreignKeyOn? t key.column).isSome = true := List.find?_isSome.mpr ⟨key, h, by simp⟩
  obtain ⟨first, hf⟩ := Option.isSome_iff_exists.mp hs
  exact ⟨first, List.mem_of_find?_eq_some hf, hf, by simpa using List.find?_some hf⟩

lemma mem_added_iff_first (hd : ¬ s.Declares t column) {c : Column} :
    c ∈ s.resolve.addedColumnsOf t ∧ c.name = column ↔
      ∃ first, s.resolve.foreignKeyOn? t column = some first ∧ first.toColumn = c := by
  have hfilter := filter_synthesized_eq_first hd
  constructor
  · rintro ⟨hc, rfl⟩
    obtain ⟨key, hk, hs, rfl⟩ := mem_addedColumnsOf_iff.mp hc
    have hmem : key ∈ (s.resolve.foreignKeysOf t).filter fun k => k.column == key.column && k.synthesized :=
      List.mem_filter.mpr ⟨hk, by simp [hs]⟩
    exact ⟨key, Option.mem_toList.mp (hfilter ▸ hmem), rfl⟩
  · rintro ⟨first, hf, rfl⟩
    have hmem : first ∈ (s.resolve.foreignKeyOn? t column).toList := by simp [hf]
    rw [← hfilter, List.mem_filter, Bool.and_eq_true, beq_iff_eq] at hmem
    exact ⟨mem_addedColumnsOf_iff.mpr ⟨first, hmem.1, hmem.2.2, rfl⟩, hmem.2.1⟩

lemma nodup_addedColumnsOf (s : Schema) (t : Nat) : ((s.resolve.addedColumnsOf t).map (·.name)).Nodup := by
  rw [List.nodup_iff_count_le_one]
  intro column
  have hcount : ((s.resolve.addedColumnsOf t).map (·.name)).count column =
      ((s.resolve.foreignKeysOf t).filter fun k => k.column == column && k.synthesized).length := by
    rw [Resolution.addedColumnsOf, Resolution.addedKeysOf, List.map_map, List.count, List.countP_map,
      List.countP_eq_length_filter, List.filter_filter]
    rfl
  rw [hcount]
  by_cases hd : s.Declares t column
  · rw [List.length_eq_zero_iff.mpr]
    · exact Nat.zero_le 1
    · rw [List.filter_eq_nil_iff]
      intro k hk
      simp only [Bool.and_eq_true, beq_iff_eq, not_and, Bool.not_eq_true]
      exact not_synthesized_of_declares hd hk
  · rw [filter_synthesized_eq_first hd]
    exact Option.length_toList_le

end Schema

end SchemaCode
