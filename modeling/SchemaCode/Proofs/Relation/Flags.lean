import Mathlib.Data.List.Forall2
import SchemaCode.Proofs.Relation.UniqueKeys

namespace SchemaCode

namespace Resolution

variable {keys : List ForeignKey} {c : Column}

lemma foreign_flag_iff :
    (flag keys c).foreign = true ↔ c.foreign = true ∨ ∃ key ∈ keys, key.column = c.name := by
  simp [flag, List.filter_eq_nil_iff]

lemma unique_flag_iff : (flag keys c).unique = true ↔
    c.unique = true ∨ ∃ key ∈ keys, key.column = c.name ∧ key.unique = true := by
  simp [flag]

end Resolution

namespace Schema

def Stores (s : Schema) (kind : RelationKind) (t : Nat) (column : String) : Prop :=
  ∃ (k : Nat) (r : Relationship) (l : Link), s.usable[k]? = some r ∧ r.kind = kind ∧
    s.resolve.links[k]? = some l ∧ l.heldIn t column = true

structure Flagged (s : Schema) (t : Nat) (declared column : Column) : Prop where
  name : column.name = declared.name
  type : column.type = declared.type
  primary : column.primary = declared.primary
  foreign : column.foreign = true ↔
    declared.foreign = true ∨ ∃ key ∈ s.resolve.foreignKeys, key.owner.index = t ∧ key.column = declared.name
  unique : column.unique = true ↔ declared.unique = true ∨ s.Stores .oneToOne t declared.name

variable {s : Schema} {t : Nat} {column : String}

lemma exists_unique_key_iff :
    (∃ key ∈ s.resolve.foreignKeysOf t, key.column = column ∧ key.unique = true) ↔ s.Stores .oneToOne t column := by
  constructor
  · rintro ⟨key, hkey, hc, hu⟩
    obtain ⟨hmem, ht⟩ := mem_foreignKeysOf.mp hkey
    obtain ⟨l, hl, hlk⟩ := List.mem_filterMap.mp hmem
    obtain ⟨k, hk⟩ := List.mem_iff_getElem?.mp hl
    obtain ⟨r, rs, a, b, hr, m⟩ := exists_made_of_link hk
    refine ⟨k, r, l, hr, m.grows.kind.symm.trans ((m.key_unique_iff hlk).mp hu), hk, ?_⟩
    simp [Link.heldIn, hlk, ht, hc]
  · rintro ⟨k, r, l, hr, hkind, hk, hheld⟩
    obtain ⟨r', rs, a, b, hr', m⟩ := exists_made_of_link hk
    obtain rfl := Option.some.inj (hr.symm.trans hr')
    obtain ⟨key, hlk, hstored⟩ := (Option.any_eq_true _ _).mp hheld
    obtain ⟨ht, hc⟩ : key.owner.index = t ∧ key.column = column := by simpa using hstored
    have hmem : key ∈ s.resolve.foreignKeys := List.mem_filterMap.mpr ⟨l, List.mem_of_getElem? hk, hlk⟩
    exact ⟨key, mem_foreignKeysOf.mpr ⟨hmem, ht⟩, hc, (m.key_unique_iff hlk).mpr (m.grows.kind.trans hkind)⟩

lemma flagged_flag (s : Schema) (t : Nat) (c : Column) :
    s.Flagged t c (Resolution.flag (s.resolve.foreignKeysOf t) c) where
  name := rfl
  type := rfl
  primary := rfl
  foreign := by simp only [Resolution.foreign_flag_iff, mem_foreignKeysOf, and_assoc]
  unique := by rw [Resolution.unique_flag_iff, exists_unique_key_iff]

lemma columnsAt_of_columns {table : Table} {columns : List Column} (ht : s.tables[t]? = some table)
    (hc : table.columns = some columns) :
    s.resolve.columnsAt t = columns.map (Resolution.flag (s.resolve.foreignKeysOf t)) := by
  have he : (⟨t, table.id, table.name, columns⟩ : Entity) ∈ s.entities :=
    mem_entities.mpr ⟨table, ht, rfl, rfl, hc⟩
  exact columnsAt_index he

theorem columns_flagged (s : Schema) :
    (∀ t table columns, s.tables[t]? = some table → table.columns = some columns →
        List.Forall₂ (s.Flagged t) columns (s.resolve.columnsAt t)) ∧
      (∀ t, (∀ table, s.tables[t]? = some table → table.columns = none) → s.resolve.columnsAt t = []) ∧
      s.resolve.entities.map (fun e => (e.index, e.id, e.name, s.resolve.columnsOf e)) =
        s.tables.zipIdx.filterMap fun (table, t) =>
          table.columns.map fun _ => (t, table.id, table.name, s.resolve.columnsAt t) := by
  refine ⟨?_, ?_, ?_⟩
  · intro t table columns ht hc
    rw [columnsAt_of_columns ht hc, List.forall₂_map_right_iff, List.forall₂_same]
    exact fun c _ => s.flagged_flag t c
  · intro t hnone
    apply columnsAt_eq_nil
    rintro e he rfl
    obtain ⟨table, ht, -, -, hc⟩ := mem_entities.mp he
    exact absurd (hc.symm.trans (hnone table ht)) (Option.some_ne_none _)
  · rw [entities_resolve, entities, List.map_filterMap]
    apply List.filterMap_congr
    rintro ⟨table, t⟩ hmem
    rw [List.mem_zipIdx_iff_getElem?] at hmem
    cases hc : table.columns with
    | none => simp [Table.entity?, hc]
    | some columns => simp [Table.entity?, hc, columnsAt_of_columns hmem hc, Resolution.columnsOf]

end Schema

end SchemaCode
