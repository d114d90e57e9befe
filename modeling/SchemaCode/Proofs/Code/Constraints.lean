import SchemaCode.Proofs.Code.Columns
import SchemaCode.Proofs.Sql.CreationOrder

/-! What the formats say that columns refer to. SQL goes through the foreign keys of a table, the others look up one
key for each column. -/

namespace SchemaCode

def ForeignKey.content (k : ForeignKey) : Nat × String × Nat × String :=
  (k.owner.index, k.column, k.referenced.index, k.referencedColumn)

namespace Resolution

/-- The key is the first one that is stored in its column. -/
def Leads (r : Resolution) (key : ForeignKey) : Prop := r.foreignKeyOn? key.owner.index key.column = some key

def foundContents (r : Resolution) : List (Nat × String × Nat × String) :=
  r.entities.flatMap fun e => (r.keyedColumns e).filterMap fun (c, key?) =>
    key?.map fun k => (e.index, c.name, k.referenced.index, k.referencedColumn)

variable {r : Resolution} {t : Nat} {column : String} {key : ForeignKey}

lemma of_foreignKeyOn?_eq_some (h : r.foreignKeyOn? t column = some key) :
    key ∈ r.foreignKeys ∧ key.owner.index = t ∧ key.column = column := by
  rw [foreignKeyOn?] at h
  obtain ⟨hkey, ht⟩ := List.mem_filter.mp (List.mem_of_find?_eq_some h)
  have hc := List.find?_some h
  exact ⟨hkey, beq_iff_eq.mp ht, beq_iff_eq.mp hc⟩

lemma leads_of_foreignKeyOn?_eq_some (h : r.foreignKeyOn? t column = some key) : r.Leads key := by
  obtain ⟨-, rfl, rfl⟩ := of_foreignKeyOn?_eq_some h
  exact h

lemma Leads.eq {f g : ForeignKey} (hf : r.Leads f) (hg : r.Leads g) (ht : f.owner.index = g.owner.index)
    (hc : f.column = g.column) : f = g := by
  rw [Leads, ht, hc] at hf
  exact Option.some.inj (hf.symm.trans hg)

end Resolution

namespace SqlAlchemy

def MappedClass.contents (c : MappedClass) : List (Nat × String × Nat × String) :=
  c.columns.filterMap fun m =>
    m.key.map fun k => (c.entity.index, m.column.name, k.referenced.index, k.referencedColumn)

def contents (r : Resolution) : List (Nat × String × Nat × String) := (moduleOf r).classes.flatMap (·.contents)

lemma contents_eq (r : Resolution) : contents r = r.foundContents := by
  simp only [contents, moduleOf, List.flatMap_map, MappedClass.contents, mappedClass, columns_eq, List.filterMap_map]
  rfl

end SqlAlchemy

namespace Sequelize

def Model.contents (m : Model) : List (Nat × String × Nat × String) :=
  m.attributes.filterMap fun a =>
    a.key.map fun k => (m.entity.index, a.column.name, k.referenced.index, k.referencedColumn)

def contents (r : Resolution) : List (Nat × String × Nat × String) := (models r).flatMap (·.contents)

lemma contents_eq (r : Resolution) : contents r = r.foundContents := by
  simp only [contents, models, List.flatMap_map, Model.contents, attributes_eq, List.filterMap_map]
  rfl

end Sequelize

namespace Sql

def contents (r : Resolution) : List (Nat × String × Nat × String) :=
  ((statements r).flatMap (·.clauses)).map (·.content)

lemma mem_contents {s : Schema} {content : Nat × String × Nat × String} :
    content ∈ contents s.resolve ↔ ∃ key ∈ s.resolve.foreignKeys, key.content = content := by
  constructor
  · intro h
    obtain ⟨c, hc, rfl⟩ := List.mem_map.mp h
    obtain ⟨key, hkey, rfl⟩ := mem_clauses hc
    exact ⟨key, hkey, rfl⟩
  · rintro ⟨key, hkey, rfl⟩
    exact content_mem_clauses hkey

end Sql

namespace Schema

variable {s : Schema}

lemma keyedColumns_resolve (e : Entity) : s.resolve.keyedColumns e =
    (s.resolve.storedColumns e).map fun c => (c, s.resolve.foreignKeyOn? e.index c.name) := by
  -- a look-up for the column that a key adds finds this key
  have hadded : ∀ key ∈ s.resolve.addedKeysOf e.index,
      (key.toColumn, some key) = (key.toColumn, s.resolve.foreignKeyOn? e.index key.toColumn.name) := by
    intro key hkey
    have hd := not_declares_of_mem_added (List.mem_map_of_mem (f := ForeignKey.toColumn) hkey)
    obtain ⟨hkeys, hsynthesized⟩ := List.mem_filter.mp hkey
    have hfirst : key ∈ (s.resolve.foreignKeyOn? e.index key.toColumn.name).toList := by
      rw [← filter_synthesized_eq_first hd]
      exact List.mem_filter.mpr ⟨hkeys, by simp [hsynthesized, ForeignKey.toColumn]⟩
    exact congrArg (key.toColumn, ·) (Option.mem_toList.mp hfirst).symm
  rw [Resolution.keyedColumns, Resolution.storedColumns, Resolution.addedColumnsOf, List.map_append, List.map_map,
    List.map_congr_left hadded]
  rfl

lemma exists_mem_storedColumns {key : ForeignKey} (h : key ∈ s.resolve.foreignKeys) :
    ∃ c ∈ s.resolve.storedColumns key.owner, c.name = key.column := by
  obtain ⟨d, hd, hn⟩ := Sql.exists_column h
  exact ⟨d.column, Sql.columnsOf_eq s.resolve key.owner ▸ List.mem_map_of_mem hd, hn⟩

lemma mem_foundContents {content : Nat × String × Nat × String} :
    content ∈ s.resolve.foundContents ↔
      ∃ key ∈ s.resolve.foreignKeys, s.resolve.Leads key ∧ key.content = content := by
  simp only [Resolution.foundContents, keyedColumns_resolve, List.mem_flatMap, List.filterMap_map,
    List.mem_filterMap, Function.comp_apply, Option.map_eq_some_iff]
  constructor
  · rintro ⟨e, -, c, -, key, hfound, rfl⟩
    obtain ⟨hkey, ht, hc⟩ := Resolution.of_foreignKeyOn?_eq_some hfound
    exact ⟨key, hkey, Resolution.leads_of_foreignKeyOn?_eq_some hfound, by rw [ForeignKey.content, ht, hc]⟩
  · rintro ⟨key, hkey, hl, rfl⟩
    obtain ⟨c, hc, hn⟩ := exists_mem_storedColumns hkey
    exact ⟨key.owner, entities_resolve ▸ owner_mem_entities hkey, c, hc, key, hn ▸ hl, hn ▸ rfl⟩

lemma exists_leads {key : ForeignKey} (h : key ∈ s.resolve.foreignKeys) :
    ∃ first ∈ s.resolve.foreignKeys, s.resolve.Leads first ∧
      first.owner.index = key.owner.index ∧ first.column = key.column := by
  obtain ⟨first, hfirst, hf, hc⟩ := foreignKeyOn?_of_mem (mem_foreignKeysOf.mpr ⟨h, rfl⟩)
  obtain ⟨hmem, ht⟩ := mem_foreignKeysOf.mp hfirst
  exact ⟨first, hmem, Resolution.leads_of_foreignKeyOn?_eq_some hf, ht, hc⟩

lemma contents_of_leads_iff :
    (∀ content, (∃ key ∈ s.resolve.foreignKeys, key.content = content) ↔
      ∃ key ∈ s.resolve.foreignKeys, s.resolve.Leads key ∧ key.content = content) ↔
    ∀ f ∈ s.resolve.foreignKeys, ∀ g ∈ s.resolve.foreignKeys, f.owner.index = g.owner.index →
      f.column = g.column → f.content = g.content := by
  constructor
  -- the leading keys that say what `f` and `g` say are in one column, so they are one key
  · intro h f hf g hg ht hc
    obtain ⟨f', -, hlf, hf'⟩ := (h f.content).mp ⟨f, hf, rfl⟩
    obtain ⟨g', -, hlg, hg'⟩ := (h g.content).mp ⟨g, hg, rfl⟩
    have howner : f'.owner.index = g'.owner.index :=
      (congrArg (·.1) hf').trans (ht.trans (congrArg (·.1) hg').symm)
    have hcolumn : f'.column = g'.column := (congrArg (·.2.1) hf').trans (hc.trans (congrArg (·.2.1) hg').symm)
    rw [← hf', hlf.eq hlg howner hcolumn, hg']
  · intro h content
    constructor
    · rintro ⟨key, hkey, rfl⟩
      obtain ⟨first, hfirst, hl, ht, hc⟩ := exists_leads hkey
      exact ⟨first, hfirst, hl, h first hfirst key hkey ht hc⟩
    · rintro ⟨key, hkey, -, he⟩
      exact ⟨key, hkey, he⟩

/-- Where the code says what columns refer to. In SQL it is in the clauses of the statements, otherwise in the lines
of the columns. -/
structure WritesKeys (s : Schema) : Prop where
  sql : ∃ texts, List.Forall₂ Sql.Statement.Spells (Sql.statements s.resolve) texts ∧
    s.generate .sql = Format.sql.comment (Format.sql.title s.name) ++ "\n\n" ++ String.join texts
  mapped : ∀ f : Format, f = .sqlAlchemy ∨ f = .sequelize →
    s.generate f = f.comment (f.title s.name) ++ "\n\n" ++ f.laidOut s.resolve ∧
      (f.blocks s.resolve).map (·.1) = s.entities ∧
      ∀ e lines, (e, lines) ∈ f.blocks s.resolve → ∃ parts, List.Forall₂ f.Spells parts lines ∧
        parts.filterMap (·.column?) = s.resolve.keyedColumns e
  found : SqlAlchemy.contents s.resolve = s.resolve.foundContents

lemma writesKeys (h : s.tables ≠ []) : s.WritesKeys where
  sql := ⟨_, Sql.spells_statements s.resolve, generate_of_opening h .sql rfl⟩
  mapped f hf := by
    refine ⟨generate_laidOut h f, ?_, ?_⟩
    · rw [Format.tables_blocks, entities_resolve]
      rcases hf with rfl | rfl <;> rfl
    · intro e lines hblock
      obtain ⟨parts, hparts⟩ := Format.exists_parts (fun l => keyInPlace) hblock
      refine ⟨parts, hparts.spelled, hparts.columns.trans ?_⟩
      rcases hf with rfl | rfl <;> rfl
  found := SqlAlchemy.contents_eq s.resolve

/-- The three formats that declare what columns refer to agree just where all keys in one column of a table refer
to the same. SQL declares what each key says, the other two what the leading keys say. -/
theorem key_contents_agree_iff (s : Schema) (h : s.tables ≠ []) :
    s.WritesKeys ∧
      (∀ content, content ∈ Sql.contents s.resolve ↔ ∃ key ∈ s.resolve.foreignKeys, key.content = content) ∧
      (∀ content, content ∈ SqlAlchemy.contents s.resolve ↔
        ∃ key ∈ s.resolve.foreignKeys, s.resolve.Leads key ∧ key.content = content) ∧
      Sequelize.contents s.resolve = SqlAlchemy.contents s.resolve ∧
      ((∀ content, content ∈ Sql.contents s.resolve ↔ content ∈ SqlAlchemy.contents s.resolve) ↔
        ∀ f ∈ s.resolve.foreignKeys, ∀ g ∈ s.resolve.foreignKeys, f.owner.index = g.owner.index →
          f.column = g.column → f.content = g.content) := by
  rw [SqlAlchemy.contents_eq, Sequelize.contents_eq]
  refine ⟨writesKeys h, fun _ => Sql.mem_contents, fun _ => mem_foundContents, rfl, ?_⟩
  simp only [Sql.mem_contents, mem_foundContents]
  exact contents_of_leads_iff

def eitherOwner : Schema where
  tables := [
    { id := "a", name := "User", columns := some [
      { name := "id", type := .uuid, primary := true }, { name := "owner_id", type := .uuid }] },
    { id := "b", name := "Team", columns := some [{ name := "id", type := .uuid, primary := true }] },
    { id := "c", name := "Org", columns := some [{ name := "id", type := .uuid, primary := true }] }]
  relationships := [
    { source := "a", target := "b", sourceKey := "owner_id", declared := some .manyToOne },
    { source := "a", target := "c", sourceKey := "owner_id", declared := some .manyToOne }]

theorem key_contents_agree_iff_eitherOwner :
    eitherOwner.tables ≠ [] ∧
      eitherOwner.WritesKeys ∧
      (∀ content, content ∈ Sql.contents eitherOwner.resolve ↔
        ∃ key ∈ eitherOwner.resolve.foreignKeys, key.content = content) ∧
      (∀ content, content ∈ SqlAlchemy.contents eitherOwner.resolve ↔
        ∃ key ∈ eitherOwner.resolve.foreignKeys, eitherOwner.resolve.Leads key ∧ key.content = content) ∧
      Sequelize.contents eitherOwner.resolve = SqlAlchemy.contents eitherOwner.resolve ∧
      ((∀ content, content ∈ Sql.contents eitherOwner.resolve ↔ content ∈ SqlAlchemy.contents eitherOwner.resolve) ↔
        ∀ f ∈ eitherOwner.resolve.foreignKeys, ∀ g ∈ eitherOwner.resolve.foreignKeys,
          f.owner.index = g.owner.index → f.column = g.column → f.content = g.content) :=
  ⟨List.cons_ne_nil _ _, key_contents_agree_iff eitherOwner (List.cons_ne_nil _ _)⟩

theorem eitherOwner_contents_differ :
    eitherOwner.tables ≠ [] ∧
      (0, "owner_id", 2, "id") ∈ Sql.contents eitherOwner.resolve ∧
      (0, "owner_id", 2, "id") ∉ SqlAlchemy.contents eitherOwner.resolve ∧
      (0, "owner_id", 2, "id") ∉ Sequelize.contents eitherOwner.resolve := by
  have horg := List.mem_of_getElem? (l := eitherOwner.resolve.foreignKeys) (i := 1) rfl
  refine ⟨List.cons_ne_nil _ _, Sql.mem_contents.mpr ⟨_, horg, rfl⟩, ?_, ?_⟩
  · decide
  · decide

end Schema

end SchemaCode
