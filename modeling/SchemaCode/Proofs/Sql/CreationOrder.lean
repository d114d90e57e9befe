import SchemaCode.Proofs.Code.Parts
import SchemaCode.Proofs.Relation.DependencyOrder

/-! The statements of a schema find what they refer to. -/

namespace SchemaCode.Sql

variable {s : Schema}

lemma entities_of_mem_constraintsOf {t : Nat} {c : Constraint} (h : c ∈ constraintsOf s.resolve t) :
    c.owner ∈ s.entities ∧ c.referenced ∈ s.entities := by
  obtain ⟨key, hkey, rfl⟩ := (constraintsOf_alike _ _).1 c h
  have hkey := (Schema.mem_foreignKeysOf.mp hkey).1
  exact ⟨Schema.owner_mem_entities hkey, Schema.referenced_mem_entities hkey⟩

lemma mem_clauses {c : Constraint} (h : c ∈ (statements s.resolve).flatMap (·.clauses)) :
    ∃ key ∈ s.resolve.foreignKeys, constraint key = c := by
  obtain ⟨e, -, hc⟩ := List.mem_flatMap.mp ((clauses_statements s.resolve).mem_iff.mp h)
  obtain ⟨key, hkey, he⟩ := (constraintsOf_alike _ _).1 c hc
  exact ⟨key, (Schema.mem_foreignKeysOf.mp hkey).1, he⟩

lemma entities_of_mem_clauses {c : Constraint} (h : c ∈ (statements s.resolve).flatMap (·.clauses)) :
    c.owner ∈ s.entities ∧ c.referenced ∈ s.entities := by
  obtain ⟨key, hkey, rfl⟩ := mem_clauses h
  exact ⟨Schema.owner_mem_entities hkey, Schema.referenced_mem_entities hkey⟩

lemma nodup_contents (s : Schema) : (((statements s.resolve).flatMap (·.clauses)).map (·.content)).Nodup := by
  have hperm := (clauses_statements s.resolve).trans
    ((Resolution.perm_dependencyOrder s.sorted_resolve).flatMap_right fun e => constraintsOf s.resolve e.index)
  rw [(hperm.map _).nodup_iff, List.map_flatMap, List.nodup_flatMap]
  constructor
  · exact fun e _ => (constraintsOf_alike _ _).2.1
  · apply s.sorted_resolve.imp
    intro a b hab x ha hb
    obtain ⟨c, hc, rfl⟩ := List.mem_map.mp ha
    obtain ⟨c', hc', he⟩ := List.mem_map.mp hb
    have howner : c'.owner.index = c.owner.index := congrArg Prod.fst he
    rw [owner_of_mem_constraintsOf hc, owner_of_mem_constraintsOf hc'] at howner
    omega

lemma content_mem_clauses {key : ForeignKey} (h : key ∈ s.resolve.foreignKeys) :
    (constraint key).content ∈ ((statements s.resolve).flatMap (·.clauses)).map (·.content) := by
  have hkey : key ∈ s.resolve.foreignKeysOf key.owner.index := Schema.mem_foreignKeysOf.mpr ⟨h, rfl⟩
  have howner := Schema.mem_dependencyOrder_resolve.mpr (Schema.owner_mem_entities h)
  rw [((clauses_statements s.resolve).map _).mem_iff, List.map_flatMap]
  exact List.mem_flatMap.mpr ⟨key.owner, howner, (constraintsOf_alike _ _).2.2 key hkey⟩

lemma owner_eq_of_mem {e : Entity} {columns : List ColumnDefinition} {constraints : List Constraint}
    (h : .createTable e columns constraints ∈ statements s.resolve) {c : Constraint} (hc : c ∈ constraints) :
    c.owner = e := by
  have howner := (entities_of_mem_clauses (List.mem_flatMap.mpr ⟨_, h, hc⟩)).1
  obtain ⟨e', he', constraints', hst, hsub⟩ := mem_createTables (createTable_mem_statements.mp h)
  obtain ⟨rfl, -, rfl⟩ := Statement.createTable.inj hst
  exact Schema.eq_of_index_eq howner (Schema.mem_dependencyOrder_resolve.mp he')
    (owner_of_mem_constraintsOf (hsub hc))

lemma refers_mem_entities {st : Statement} (h : st ∈ statements s.resolve) {e : Entity} (he : e ∈ st.refers) :
    e ∈ s.entities := by
  have hclause : ∀ c ∈ st.clauses, c.owner ∈ s.entities ∧ c.referenced ∈ s.entities :=
    fun c hc => entities_of_mem_clauses (List.mem_flatMap.mpr ⟨st, h, hc⟩)
  cases st with
  | createTable e' columns constraints =>
    obtain ⟨c, hc, rfl⟩ := List.mem_map.mp he
    exact (hclause c hc).2
  | createJunction j =>
    obtain ⟨hsource, htarget⟩ := Schema.junction_mem_entities (createJunction_mem_statements.mp h)
    rcases List.mem_pair.mp he with rfl | rfl
    · exact hsource
    · exact htarget
  | addConstraint c =>
    obtain ⟨howner, hreferenced⟩ := hclause c (List.mem_singleton.mpr rfl)
    rcases List.mem_pair.mp he with rfl | rfl
    · exact howner
    · exact hreferenced

lemma refers_created {i : Nat} {st : Statement} (h : (statements s.resolve)[i]? = some st) {e : Entity}
    (he : e ∈ st.refers) : e ∈ ((statements s.resolve).take (i + 1)).filterMap (·.table?) := by
  have hmem := refers_mem_entities (List.mem_of_getElem? h) he
  have htables := filterMap_table?_createTables s.resolve [] s.resolve.dependencyOrder
  rw [statements_eq, List.append_assoc] at h ⊢
  by_cases hi : i < (createTables s.resolve [] s.resolve.dependencyOrder).1.length
  -- a table refers to what the tables before it and its own statement have created
  · rw [List.getElem?_append_left hi] at h
    rw [List.take_append_of_le_length hi]
    obtain hnone | hcreated := refers_createTables h he
    · exact absurd hnone List.not_mem_nil
    · obtain ⟨e', he', hindex⟩ := List.mem_map.mp hcreated
      have hmem' : e' ∈ s.entities := by
        rw [← Schema.mem_dependencyOrder_resolve, ← htables]
        exact ((List.take_sublist _ _).filterMap _).subset he'
      exact Schema.eq_of_index_eq hmem' hmem hindex ▸ he'
  -- what comes behind the tables finds all of them
  · rw [List.take_append, List.take_of_length_le (by omega), List.filterMap_append, htables]
    exact List.mem_append_left _ (Schema.mem_dependencyOrder_resolve.mpr hmem)

lemma exists_column {key : ForeignKey} (h : key ∈ s.resolve.foreignKeys) :
    ∃ d ∈ columnsOf s.resolve key.owner, d.column.name = key.column := by
  have howner := Schema.owner_mem_entities h
  have hkey : key ∈ s.resolve.foreignKeysOf key.owner.index := Schema.mem_foreignKeysOf.mpr ⟨h, rfl⟩
  simp only [columnsOf, List.mem_append, List.mem_map]
  by_cases hd : s.Declares key.owner.index key.column
  · obtain ⟨c, hc, hn⟩ := Entity.hasColumn_iff.mp ((Schema.declares_iff howner).mp hd)
    exact ⟨_, .inl ⟨_, List.mem_map_of_mem hc, rfl⟩, hn⟩
  · obtain ⟨first, -, hf, -⟩ := Schema.foreignKeyOn?_of_mem hkey
    obtain ⟨hc, hn⟩ := (Schema.mem_added_iff_first hd).mpr ⟨first, hf, rfl⟩
    exact ⟨_, .inr ⟨_, hc, rfl⟩, hn⟩

/-- The text of a statement. A table has a line for each column and for each key that does not have to wait. -/
inductive Statement.Spells : Statement → String → Prop
  | createTable (e : Entity) (columns : List ColumnDefinition) (constraints : List Constraint) (lines : List String)
      (h : List.Forall₂ Sql.Spells (columns.map (fun d => .column d.column none) ++ constraints.map .clause) lines) :
      Spells (.createTable e columns constraints) ("CREATE TABLE " ++ e.lowerName ++ " (\n" ++ separated ",\n" lines ++
        ");\n\n")
  | createJunction (j : Junction) : Spells (.createJunction j) ("CREATE TABLE " ++ j.name ++ " (\n" ++ separated ",\n" [
      "  " ++ j.source.column ++ " " ++ typeName j.source.type ++ " NOT NULL",
      "  " ++ j.target.column ++ " " ++ typeName j.target.type ++ " NOT NULL",
      "  PRIMARY KEY (" ++ j.source.column ++ ", " ++ j.target.column ++ ")",
      "  FOREIGN KEY (" ++ j.source.column ++ ") REFERENCES " ++ j.source.entity.lowerName ++ "(" ++
        j.source.referencedColumn ++ ") ON DELETE CASCADE",
      "  FOREIGN KEY (" ++ j.target.column ++ ") REFERENCES " ++ j.target.entity.lowerName ++ "(" ++
        j.target.referencedColumn ++ ") ON DELETE CASCADE"] ++ ");\n\n")
  | addConstraint (c : Constraint) : Spells (.addConstraint c) ("ALTER TABLE " ++ c.owner.lowerName ++
      " ADD FOREIGN KEY (" ++ c.column ++ ") REFERENCES " ++ c.referenced.lowerName ++ "(" ++ c.referencedColumn ++
        ");\n")

lemma sideClause_eq (side : JunctionSide) : sideClause side = "  FOREIGN KEY (" ++ side.column ++ ") REFERENCES " ++
    side.entity.lowerName ++ "(" ++ side.referencedColumn ++ ") ON DELETE CASCADE" := by
  have hkey : "  FOREIGN KEY (" = "  " ++ "FOREIGN KEY (" := rfl
  have hcascade : ") ON DELETE CASCADE" = ")" ++ " ON DELETE CASCADE" := rfl
  delta sideClause foreignKeyClause
  simp only [hkey, hcascade, String.append_assoc]

lemma Statement.spells_render (st : Statement) : st.Spells st.render := by
  cases st with
  | createTable e columns constraints =>
    refine .createTable e columns constraints _ (List.rel_append ?_ (forall₂_map constraints spells_clause))
    exact forall₂_map columns fun d => spells_column d none
  | createJunction j =>
    have htext := Spells.createJunction j
    rw [← sideClause_eq, ← sideClause_eq] at htext
    exact htext
  | addConstraint c =>
    have hkey : " ADD FOREIGN KEY (" = " ADD " ++ "FOREIGN KEY (" := rfl
    have hend : ");\n" = ")" ++ ";\n" := rfl
    have htext := Spells.addConstraint c
    rw [hkey, hend] at htext
    delta Statement.render Constraint.render foreignKeyClause
    simpa only [String.append_assoc] using htext

lemma spells_statements (r : Resolution) :
    List.Forall₂ Statement.Spells (statements r) ((statements r).map (·.render)) := by
  rw [List.forall₂_map_right_iff, List.forall₂_same]
  exact fun st _ => st.spells_render

/-- `written` creates the tables of a schema, in an order in which each statement finds what it refers to. -/
structure CreationOrder (s : Schema) (written : List Statement) : Prop where
  layout : ∃ (tables : List Statement) (waiting : List Constraint),
    tables.map (·.table?) = s.resolve.dependencyOrder.map some ∧
    written = tables ++ s.resolve.junctions.map .createJunction ++ waiting.map .addConstraint
  entities : s.resolve.dependencyOrder.Perm s.entities
  once : ((written.flatMap (·.clauses)).map (·.content)).Nodup
  declared : ∀ content, content ∈ (written.flatMap (·.clauses)).map (·.content) ↔
    ∃ key ∈ s.resolve.foreignKeys, (constraint key).content = content
  owner : ∀ e columns constraints, .createTable e columns constraints ∈ written → ∀ c ∈ constraints, c.owner = e
  created : ∀ (i : Nat) (st : Statement), written[i]? = some st →
    ∀ e ∈ st.refers, e ∈ (written.take (i + 1)).filterMap (·.table?)
  column : ∀ c ∈ written.flatMap (·.clauses), ∃ columns constraints,
    .createTable c.owner columns constraints ∈ written ∧ ∃ d ∈ columns, d.column.name = c.column

def mutualReferences : Schema where
  tables := [
    { id := "a", name := "User", columns := some [{ name := "id", type := .uuid, primary := true }] },
    { id := "b", name := "Team", columns := some [{ name := "id", type := .uuid, primary := true }] }]
  relationships := [
    { source := "a", target := "b", declared := some .manyToOne },
    { source := "b", target := "a", declared := some .manyToOne },
    { source := "a", target := "b", declared := some .manyToMany }]

end SchemaCode.Sql
