import Mathlib.Data.List.Basic
import SchemaCode.Relation.Resolution

/-! The entities of a schema are its tables with a column list. An id stands for the first of them that carries it. -/

namespace SchemaCode

namespace Entity

lemma hasColumn_of_column? {e : Entity} {name : String} {c : Column} (h : e.column? name = some c) :
    e.hasColumn name = true := by
  simp [hasColumn, h]

lemma hasColumn_iff {e : Entity} {name : String} :
    e.hasColumn name = true ↔ ∃ c ∈ e.columns, c.name = name := by
  simp [hasColumn, column?]

end Entity

lemma Table.entity?_eq_some_iff {t : Table} {i : Nat} {e : Entity} :
    t.entity? i = some e ↔ e.index = i ∧ e.id = t.id ∧ e.name = t.name ∧ t.columns = some e.columns := by
  rcases e with ⟨index, id, name, columns⟩
  simp only [Table.entity?, Option.map_eq_some_iff, Entity.mk.injEq]
  constructor
  · rintro ⟨cs, hc, rfl, rfl, rfl, rfl⟩
    exact ⟨rfl, rfl, rfl, hc⟩
  · rintro ⟨rfl, rfl, rfl, hc⟩
    exact ⟨columns, hc, rfl, rfl, rfl, rfl⟩

namespace Schema

/-- `e` is the first table with a column list that carries `id`. -/
structure First (s : Schema) (id : String) (e : Entity) : Prop where
  table : ∃ t, s.tables[e.index]? = some t ∧ e.id = t.id ∧ e.name = t.name ∧ t.columns = some e.columns
  carries : e.id = id
  least : ∀ i t, i < e.index → s.tables[i]? = some t → t.columns.isSome = true → t.id ≠ id

def Declares (s : Schema) (t : Nat) (column : String) : Prop :=
  ∃ table, s.tables[t]? = some table ∧ (table.column? column).isSome = true

def knows (s : Schema) (id : String) : Bool :=
  s.tables.any fun t => t.id == id && t.columns.isSome

def uses (s : Schema) (r : Relationship) : Bool := s.knows r.source && s.knows r.target

/-- The relationships both of whose tables have a column list. -/
def usable (s : Schema) : List Relationship := s.relationships.filter s.uses

variable {s : Schema}

lemma mem_entities {e : Entity} :
    e ∈ s.entities ↔
      ∃ t, s.tables[e.index]? = some t ∧ e.id = t.id ∧ e.name = t.name ∧ t.columns = some e.columns := by
  simp only [entities, List.mem_filterMap, Prod.exists, List.mem_zipIdx_iff_getElem?]
  constructor
  · rintro ⟨t, i, ht, he⟩
    obtain ⟨rfl, h⟩ := Table.entity?_eq_some_iff.mp he
    exact ⟨t, ht, h⟩
  · rintro ⟨t, ht, h⟩
    exact ⟨t, e.index, ht, Table.entity?_eq_some_iff.mpr ⟨rfl, h⟩⟩

lemma entities_sorted (s : Schema) : s.entities.Pairwise (·.index < ·.index) := by
  have hp : s.tables.zipIdx.Pairwise (·.2 < ·.2) := by
    rw [← List.pairwise_map (f := Prod.snd), List.zipIdx_map_snd]
    exact List.pairwise_lt_range'
  refine List.pairwise_filterMap.mpr (hp.imp ?_)
  intro a b hab e he e' he'
  rw [(Table.entity?_eq_some_iff.mp he).1, (Table.entity?_eq_some_iff.mp he').1]
  exact hab

lemma eq_of_index_eq {e e' : Entity} (he : e ∈ s.entities) (he' : e' ∈ s.entities)
    (h : e.index = e'.index) : e = e' := by
  obtain ⟨t, ht, hi, hn, hc⟩ := mem_entities.mp he
  obtain ⟨t', ht', hi', hn', hc'⟩ := mem_entities.mp he'
  rw [h, ht', Option.some.injEq] at ht
  subst ht
  rcases e with ⟨index, id, name, columns⟩
  rcases e' with ⟨index', id', name', columns'⟩
  simp_all

lemma entity_of_table {t : Table} {i : Nat} (ht : s.tables[i]? = some t) (hc : t.columns.isSome = true) :
    ∃ e ∈ s.entities, e.index = i ∧ e.id = t.id := by
  obtain ⟨columns, hc⟩ := Option.isSome_iff_exists.mp hc
  exact ⟨⟨i, t.id, t.name, columns⟩, mem_entities.mpr ⟨t, ht, rfl, rfl, hc⟩, rfl, rfl⟩

lemma find?_entities_iff {id : String} {e : Entity} :
    s.entities.find? (·.id == id) = some e ↔ s.First id e := by
  rw [List.find?_eq_some_iff_append]
  simp only [beq_iff_eq, Bool.not_eq_true', beq_eq_false_iff_ne]
  constructor
  · rintro ⟨hid, as, bs, hs, has⟩
    refine ⟨mem_entities.mp (by simp [hs]), hid, ?_⟩
    intro i t hi ht hc
    obtain ⟨a, ha, rfl, hta⟩ := entity_of_table ht hc
    rw [← hta]
    -- a table before `e` can only be among `as`, since the entities are in order of position
    have hsorted := hs ▸ s.entities_sorted
    rw [hs, List.mem_append, List.mem_cons] at ha
    rcases ha with ha | rfl | ha
    · exact has a ha
    · omega
    · have := (List.pairwise_cons.mp (List.pairwise_append.mp hsorted).2.1).1 a ha
      omega
  · intro h
    obtain ⟨as, bs, hs⟩ := List.append_of_mem (mem_entities.mpr h.table)
    refine ⟨h.carries, as, bs, hs, ?_⟩
    intro a ha
    obtain ⟨t, ht, hid, -, hc⟩ := mem_entities.mp (hs ▸ List.mem_append_left _ ha)
    have hlt : a.index < e.index := by
      have hsorted := hs ▸ s.entities_sorted
      exact (List.pairwise_append.mp hsorted).2.2 a ha e List.mem_cons_self
    exact hid ▸ h.least a.index t hlt ht (by simp [hc])

lemma First.mem {id : String} {e : Entity} (h : s.First id e) : e ∈ s.entities := mem_entities.mpr h.table

lemma First.eq {id : String} {e e' : Entity} (h : s.First id e) (h' : s.First id e') : e = e' :=
  Option.some.inj ((find?_entities_iff.mpr h).symm.trans (find?_entities_iff.mpr h'))

lemma knows_iff {id : String} : s.knows id = true ↔ ∃ e, s.First id e := by
  simp only [knows, List.any_eq_true, Bool.and_eq_true, beq_iff_eq]
  constructor
  · rintro ⟨t, ht, hid, hc⟩
    obtain ⟨i, hi⟩ := List.mem_iff_getElem?.mp ht
    obtain ⟨e, he, -, heid⟩ := entity_of_table hi hc
    have hfind : (s.entities.find? (·.id == id)).isSome = true := by
      rw [List.find?_isSome]
      exact ⟨e, he, by simp [heid, hid]⟩
    obtain ⟨e', he'⟩ := Option.isSome_iff_exists.mp hfind
    exact ⟨e', find?_entities_iff.mp he'⟩
  · rintro ⟨e, h⟩
    obtain ⟨t, ht, hid, -, hc⟩ := h.table
    exact ⟨t, List.mem_of_getElem? ht, hid ▸ h.carries, by simp [hc]⟩

lemma uses_iff {r : Relationship} :
    s.uses r = true ↔ (∃ e, s.First r.source e) ∧ ∃ e, s.First r.target e := by
  simp only [uses, Bool.and_eq_true, knows_iff]

lemma declares_iff {e : Entity} (he : e ∈ s.entities) {column : String} :
    s.Declares e.index column ↔ e.hasColumn column = true := by
  obtain ⟨t, ht, -, -, hc⟩ := mem_entities.mp he
  simp [Declares, ht, Table.column?, hc, Entity.hasColumn, Entity.column?]

lemma declares_iff_exists {t : Nat} {column : String} :
    s.Declares t column ↔ ∃ e ∈ s.entities, e.index = t ∧ ∃ c ∈ e.columns, c.name = column := by
  constructor
  · intro h
    obtain ⟨table, ht, hc⟩ := h
    have hcolumns : table.columns.isSome = true := by
      cases hn : table.columns with
      | none => simp [Table.column?, hn] at hc
      | some _ => rfl
    obtain ⟨e, he, rfl, -⟩ := entity_of_table ht hcolumns
    exact ⟨e, he, rfl, Entity.hasColumn_iff.mp ((declares_iff he).mp ⟨table, ht, hc⟩)⟩
  · rintro ⟨e, he, rfl, hc⟩
    exact (declares_iff he).mpr (Entity.hasColumn_iff.mpr hc)

end Schema

end SchemaCode
