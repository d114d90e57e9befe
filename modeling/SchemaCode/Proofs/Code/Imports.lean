import SchemaCode.Proofs.Code.Constraints
import SchemaCode.Proofs.Code.Fragments

namespace SchemaCode

/-- The names, in alphabetical order and each once, are those of a library that the code uses; `always` are imported
even where they are not used. -/
structure Imported (library : String) (always : List String) (φ : List Fragment) (names : List String) : Prop where
  sorted : names.Pairwise (· < ·)
  mem_iff : ∀ name, name ∈ names ↔ name ∈ always ∨ name ∈ usedFrom library φ

lemma imported_filter {library : String} {always : List String} {φ : List Fragment} {importable used : List String}
    (hsorted : importable.Pairwise (· < ·))
    (hused : ∀ name, name ∈ used ↔ name ∈ always ∨ name ∈ usedFrom library φ)
    (himportable : ∀ name ∈ used, name ∈ importable) :
    Imported library always φ (importable.filter used.contains) where
  sorted := hsorted.filter _
  mem_iff := by
    intro name
    rw [← hused, List.mem_filter, List.contains_iff_mem]
    exact and_iff_right_of_imp (himportable name)

namespace Schema

def MakesUuid (s : Schema) : Prop := ∃ e ∈ s.entities, ∃ c ∈ e.columns, c.primary = true ∧ c.type = .uuid

variable {s : Schema}

lemma makesUuid_iff : s.MakesUuid ↔
    ∃ e ∈ s.entities, ∃ c ∈ s.resolve.storedColumns e, c.primary = true ∧ c.type = .uuid := by
  have hadded : ∀ e : Entity, ¬ ∃ c ∈ s.resolve.addedColumnsOf e.index, c.primary = true ∧ c.type = .uuid := by
    rintro e ⟨c, hc, hprimary, -⟩
    obtain ⟨key, -, rfl⟩ := List.mem_map.mp hc
    exact absurd hprimary Bool.false_ne_true
  simp only [MakesUuid, Resolution.storedColumns, Resolution.columnsOf, List.mem_append, or_and_right, exists_or,
    hadded, or_false, List.mem_map, exists_exists_and_eq_and]
  rfl

lemma entity_mem_of_mem_ends {e : End} (h : e ∈ s.resolve.ends) : e.entity ∈ s.entities := by
  obtain ⟨k, r, rs, a, b, l, m, rfl | rfl⟩ := exists_made_of_end h
  · exact m.pairs.source.mem
  · exact m.pairs.target.mem

lemma exists_mem_endsOf_iff {p : End → Prop} :
    (∃ e ∈ s.entities, ∃ x ∈ s.resolve.endsOf e.index, p x) ↔ ∃ x ∈ s.resolve.ends, p x := by
  constructor
  · rintro ⟨e, -, x, hx, hp⟩
    exact ⟨x, (List.mem_filter.mp hx).1, hp⟩
  · rintro ⟨x, hx, hp⟩
    exact ⟨x.entity, entity_mem_of_mem_ends hx, x, List.mem_filter.mpr ⟨hx, beq_self_eq_true _⟩, hp⟩

end Schema

namespace TypeOrm

variable {s : Schema}

lemma usedFrom_decorator (d : Decorator) : usedFrom "typeorm" d.fragments = [d.name] := by simp [Decorator.fragments]

lemma usedFrom_member (m : Member) : usedFrom "typeorm" m.fragments = m.decorators.map (·.name) := by
  simpa [Member.fragments, usedFrom_intercalate, List.flatMap_map, usedFrom_decorator] using List.map_eq_flatMap.symm

lemma usedFrom_memberFragments (c : EntityClass) : c.memberFragments.flatMap (usedFrom "typeorm") =
    (c.columns ++ c.relations).flatMap fun m => m.decorators.map (·.name) := by
  rw [EntityClass.memberFragments]
  cases c.relations <;> simp [List.flatMap_map, usedFrom_member]

lemma usedFrom_class (c : EntityClass) : usedFrom "typeorm" c.fragments = c.decorators.map (·.name) := by
  simp only [EntityClass.fragments, usedFrom_append, usedFrom_plain, usedFrom_nil, usedFrom_lines, usedFrom_decorator,
    usedFrom_memberFragments, EntityClass.decorators, List.map_cons, List.map_flatMap, List.append_nil,
    List.cons_append, List.nil_append]

lemma usedFrom_fragments (r : Resolution) :
    usedFrom "typeorm" (fragments r) = (classes r).flatMap fun c => c.decorators.map (·.name) := by
  simp [fragments, usedFrom_flatMap, usedFrom_class]

lemma name_mem_importable (d : Decorator) : d.name ∈ importable := by
  cases d with
  | relation kind related inverseField => cases kind <;> simp [Decorator.name, RelationDecorator.name, importable]
  | _ => simp [Decorator.name, importable]

lemma decorators_entityClass (r : Resolution) (e : Entity) :
    (entityClass r e).decorators.map (·.name) = "Entity" ::
      ((r.storedColumns e).flatMap fun c => (columnDecorators c).map (·.name)) ++
        (r.endsOf e.index).flatMap fun x => (relationMember x).decorators.map (·.name) := by
  have hmembers : (entityClass r e).columns ++ (entityClass r e).relations =
      (r.storedColumns e).map columnMember ++ (r.endsOf e.index).map relationMember := by
    simp [entityClass, Resolution.storedColumns]
  rw [EntityClass.decorators, hmembers, List.map_cons, List.flatMap_append, List.map_append, List.map_flatMap,
    List.map_flatMap, List.flatMap_map, List.flatMap_map]
  rfl

lemma mem_usedFrom_iff (h : s.entities ≠ []) {name : String} :
    name ∈ usedFrom "typeorm" (fragments s.resolve) ↔ name = "Entity" ∨
      (∃ e ∈ s.entities, ∃ c ∈ s.resolve.storedColumns e, name ∈ (columnDecorators c).map (·.name)) ∨
      ∃ x ∈ s.resolve.ends, name ∈ (relationMember x).decorators.map (·.name) := by
  have hentity : ∃ e, e ∈ s.entities := List.exists_mem_of_ne_nil _ h
  rw [← Schema.exists_mem_endsOf_iff, usedFrom_fragments, classes, Schema.entities_resolve, List.flatMap_map]
  simp only [List.mem_flatMap, decorators_entityClass, List.mem_append, List.mem_cons, List.cons_append, and_or_left,
    exists_or, exists_and_right, hentity, true_and]

lemma imported (h : s.entities ≠ []) :
    Imported "typeorm" [] (fragments s.resolve) (imports (classes s.resolve)) := by
  apply imported_filter
  · decide
  · intro name
    have hentity := (mem_usedFrom_iff h).mpr (.inl rfl)
    rw [usedFrom_fragments] at hentity ⊢
    simp only [List.mem_cons, List.not_mem_nil, false_or]
    exact or_iff_right_of_imp fun he => he ▸ hentity
  · intro name hname
    rcases List.mem_cons.mp hname with rfl | hname
    · decide
    · obtain ⟨c, -, hc⟩ := List.mem_flatMap.mp hname
      obtain ⟨d, -, rfl⟩ := List.mem_map.mp hc
      exact name_mem_importable d

end TypeOrm

namespace SqlAlchemy

variable {s : Schema} {library name : String}

lemma usedFrom_arguments (c : MappedColumn) : c.argumentFragments.flatMap (usedFrom library) =
    (if "sqlalchemy" = library then c.names else []) ++ if c.makesUuid ∧ "uuid" = library then ["uuid"] else [] := by
  rcases c with ⟨⟨name, type, primary, unique, foreign⟩, key⟩
  simp only [MappedColumn.argumentFragments, MappedColumn.names, MappedColumn.makesUuid, List.cons_append,
    List.flatMap_cons, List.flatMap_append]
  -- only of a key does the type decide what else stands there
  cases primary with
  | false => cases key <;> cases unique <;> by_cases h : "sqlalchemy" = library <;> simp [h]
  | true => cases type <;> cases key <;> cases unique <;> by_cases h : "sqlalchemy" = library <;> simp [h]

lemma usedFrom_column (c : MappedColumn) : usedFrom library c.fragments =
    (if "sqlalchemy" = library then "Column" :: c.names else []) ++
      if c.makesUuid ∧ "uuid" = library then ["uuid"] else [] := by
  simp only [MappedColumn.fragments, usedFrom_append, usedFrom_plain, usedFrom_use, usedFrom_nil, usedFrom_intercalate,
    usedFrom_arguments, List.cons_append]
  split <;> simp

lemma usedFrom_class (c : MappedClass) : usedFrom library c.fragments =
    (c.columns.flatMap fun m => usedFrom library m.fragments) ++
      if "sqlalchemy.orm" = library then c.relationships.map (fun _ => "relationship") else [] := by
  have hline : ∀ e, usedFrom library (relationshipFragments e) =
      if "sqlalchemy.orm" = library then ["relationship"] else [] := by
    intro e
    simp [relationshipFragments]
  simp only [MappedClass.fragments, usedFrom_append, usedFrom_plain, usedFrom_flatMap, hline, List.cons_append]
  split
  · rw [← List.map_eq_flatMap]
  · simp

def usedNames (j : Junction) : List String :=
  ["Table", "Column", typeName j.source.type, "ForeignKey", "Column", typeName j.target.type, "ForeignKey"]

lemma usedFrom_table (j : Junction) :
    usedFrom library (tableFragments j) = if "sqlalchemy" = library then usedNames j else [] := by
  by_cases h : "sqlalchemy" = library <;> simp [tableFragments, sideFragments, usedNames, h]

lemma usedFrom_fragments (r : Resolution) : usedFrom library (fragments r) =
    (if "sqlalchemy.orm" = library then ["declarative_base"] else []) ++
      (r.junctions.flatMap fun j => if "sqlalchemy" = library then usedNames j else []) ++
        (moduleOf r).classes.flatMap fun c => usedFrom library c.fragments := by
  simp [fragments, Module.fragments, usedFrom_flatMap, List.flatMap_map, usedFrom_table, moduleOf]

lemma mem_sqlalchemy_iff (r : Resolution) : name ∈ usedFrom "sqlalchemy" (fragments r) ↔
    (∃ j ∈ r.junctions, name ∈ usedNames j) ∨
      ∃ c ∈ (moduleOf r).classes, ∃ m ∈ c.columns, name ∈ "Column" :: m.names := by
  simp [usedFrom_fragments, usedFrom_class, usedFrom_column]

lemma mem_orm_iff (r : Resolution) : name ∈ usedFrom "sqlalchemy.orm" (fragments r) ↔
    name = "declarative_base" ∨ (moduleOf r).usesRelationships = true ∧ name = "relationship" := by
  simp [usedFrom_fragments, usedFrom_class, usedFrom_column, Module.usesRelationships, ← and_assoc]

lemma mem_uuid_iff (r : Resolution) :
    name ∈ usedFrom "uuid" (fragments r) ↔ (moduleOf r).usesUuid = true ∧ name = "uuid" := by
  simp [usedFrom_fragments, usedFrom_class, usedFrom_column, Module.usesUuid, ← and_assoc]

lemma typeName_mem_importable (t : ColumnType) : typeName t ∈ importable := by
  cases t <;> simp [typeName, importable]

lemma tableNames_subset (j : Junction) : tableNames j ⊆ importable := by
  simp only [tableNames, List.cons_subset, List.nil_subset, typeName_mem_importable, and_true]
  decide

lemma names_subset (c : MappedColumn) : c.names ⊆ importable := by
  have hkey : "ForeignKey" ∈ importable := by decide
  rw [MappedColumn.names, List.cons_subset]
  cases c.key <;> simp [typeName_mem_importable, hkey]

lemma imported (r : Resolution) : Imported "sqlalchemy" ["Column"] (fragments r) (moduleOf r).imports := by
  apply imported_filter
  · decide
  · intro name
    rw [mem_sqlalchemy_iff]
    -- association tables have columns, but their names are listed without it as it is imported in any case
    by_cases hname : name = "Column"
    · simp [hname]
    · have htables : ∀ j : Junction, name ∈ tableNames j ↔ name ∈ usedNames j := by
        intro j
        simp only [tableNames, usedNames, List.mem_cons, List.not_mem_nil, hname]
        tauto
      simp [hname, htables, moduleOf]
  · intro name hname
    rcases List.mem_append.mp hname with hname | hname
    · rcases List.mem_cons.mp hname with rfl | hname
      · decide
      · obtain ⟨j, -, hj⟩ := List.mem_flatMap.mp hname
        exact tableNames_subset j hj
    · obtain ⟨c, -, hc⟩ := List.mem_flatMap.mp hname
      obtain ⟨m, -, hm⟩ := List.mem_flatMap.mp hc
      exact names_subset m hm

lemma classes_resolve (s : Schema) : (moduleOf s.resolve).classes = s.entities.map fun e =>
    ⟨e, (s.resolve.storedColumns e).map fun c => ⟨c, s.resolve.foreignKeyOn? e.index c.name⟩,
      s.resolve.endsOf e.index⟩ := by
  rw [moduleOf, Schema.entities_resolve]
  refine List.map_congr_left fun e _ => ?_
  rw [mappedClass, columns_eq, Schema.keyedColumns_resolve, List.map_map]
  rfl

lemma exists_keyed_iff : (∃ e ∈ s.entities, ∃ c ∈ s.resolve.storedColumns e,
    (s.resolve.foreignKeyOn? e.index c.name).isSome = true) ↔ s.resolve.foreignKeys ≠ [] := by
  constructor
  · rintro ⟨e, -, c, -, hfound⟩
    obtain ⟨key, hkey⟩ := Option.isSome_iff_exists.mp hfound
    exact List.ne_nil_of_mem (Resolution.of_foreignKeyOn?_eq_some hkey).1
  · intro h
    obtain ⟨key, hkey⟩ := List.exists_mem_of_ne_nil _ h
    obtain ⟨c, hc, hname⟩ := Schema.exists_mem_storedColumns hkey
    refine ⟨key.owner, Schema.owner_mem_entities hkey, c, hc, ?_⟩
    rw [hname, Resolution.foreignKeyOn?, List.find?_isSome]
    exact ⟨key, Schema.mem_foreignKeysOf.mpr ⟨hkey, rfl⟩, beq_self_eq_true _⟩

lemma mem_usedFrom_iff : name ∈ usedFrom "sqlalchemy" (fragments s.resolve) ↔
    (∃ j ∈ s.resolve.junctions, name ∈ usedNames j) ∨
      (∃ e ∈ s.entities, ∃ c ∈ s.resolve.storedColumns e, name = "Column" ∨ name = typeName c.type) ∨
      s.resolve.foreignKeys ≠ [] ∧ name = "ForeignKey" := by
  have hnames : ∀ m : MappedColumn, name ∈ "Column" :: m.names ↔
      (name = "Column" ∨ name = typeName m.column.type) ∨ m.key.isSome = true ∧ name = "ForeignKey" := by
    intro m
    rw [MappedColumn.names]
    cases m.key <;> simp [or_assoc]
  rw [mem_sqlalchemy_iff, ← exists_keyed_iff, classes_resolve]
  simp only [List.mem_map, exists_exists_and_eq_and, hnames]
  simp only [← exists_and_right, and_assoc, and_or_left, exists_or]

lemma usesRelationships_iff : (moduleOf s.resolve).usesRelationships = true ↔ s.resolve.ends ≠ [] := by
  have hends : (∃ e ∈ s.entities, ∃ x ∈ s.resolve.endsOf e.index, True) ↔ ∃ x ∈ s.resolve.ends, True :=
    Schema.exists_mem_endsOf_iff
  rw [Module.usesRelationships, classes_resolve]
  simpa [List.eq_nil_iff_forall_not_mem] using hends

lemma usesUuid_iff : (moduleOf s.resolve).usesUuid = true ↔ s.MakesUuid := by
  rw [Module.usesUuid, classes_resolve]
  simp [Schema.makesUuid_iff, MappedColumn.makesUuid]

end SqlAlchemy

namespace Mongoose

variable {s : Schema}

lemma usedFrom_keyOptions (c : Column) (isReference : Bool) :
    (keyOptionFragments c isReference).flatMap (usedFrom "crypto") =
      if c.primary && c.type == .uuid then ["randomUUID"] else [] := by
  rw [keyOptionFragments]
  cases c.primary <;> cases c.unique <;> cases isReference <;> cases c.type == .uuid <;> simp

lemma usedFrom_field (f : Field) :
    usedFrom "crypto" f.fragments = if f.makesUuid then ["randomUUID"] else [] := by
  cases f with
  | references name related => rfl
  | column c key =>
    have hplain : ∀ ts : List String, (ts.map fun t => [Fragment.plain t]).flatMap (usedFrom "crypto") = [] := by
      intro ts
      simp [List.flatMap_map]
    simp only [Field.fragments, usedFrom_append, usedFrom_plain, usedFrom_nil, usedFrom_intercalate,
      List.flatMap_append, hplain, usedFrom_keyOptions, List.cons_append, List.nil_append, List.append_nil]
    rfl

lemma usedFrom_model (m : Model) : usedFrom "crypto" m.fragments =
    m.fields.flatMap fun f => if f.makesUuid then ["randomUUID"] else [] := by
  simp only [Model.fragments, List.cons_append, usedFrom_append, usedFrom_plain, usedFrom_nil, usedFrom_lines,
    List.append_nil, List.flatMap_map, usedFrom_field]

lemma mem_crypto_iff (r : Resolution) {name : String} :
    name ∈ usedFrom "crypto" (fragments r) ↔ usesUuid (models r) = true ∧ name = "randomUUID" := by
  simp [fragments, usedFrom_flatMap, usedFrom_model, usesUuid, ← and_assoc]

lemma makesUuid_arrayField {e : End} {f : Field} (h : arrayField? e = some f) : f.makesUuid = false := by
  rw [arrayField?_eq_some h]
  rfl

lemma exists_makesUuid_iff (e : Entity) : (∃ f ∈ (model s.resolve e).fields, f.makesUuid = true) ↔
    ∃ c ∈ s.resolve.storedColumns e, c.primary = true ∧ c.type = .uuid := by
  have harrays : ¬ ∃ f ∈ (s.resolve.endsOf e.index).filterMap arrayField?, f.makesUuid = true := by
    rintro ⟨f, hf, hmakes⟩
    obtain ⟨x, -, hx⟩ := List.mem_filterMap.mp hf
    exact absurd ((makesUuid_arrayField hx).symm.trans hmakes) Bool.false_ne_true
  simp only [model, List.mem_append, or_and_right, exists_or, harrays, or_false, columnFields_eq,
    Schema.keyedColumns_resolve, List.map_map, List.mem_map, exists_exists_and_eq_and]
  simp [Field.makesUuid]

lemma usesUuid_iff : usesUuid (models s.resolve) = true ↔ s.MakesUuid := by
  simp only [usesUuid, models, Schema.entities_resolve, List.any_eq_true, List.mem_map, exists_exists_and_eq_and,
    exists_makesUuid_iff, Schema.makesUuid_iff]

end Mongoose

namespace Schema

structure ImportsUsed (s : Schema) : Prop where
  typeOrm : ∃ names, Imported "typeorm" [] (TypeOrm.fragments s.resolve) names ∧
    s.generate .typeOrm = Format.typeOrm.comment (Format.typeOrm.title s.name) ++ "\n\n" ++
      ("import \x7b " ++ ", ".intercalate names ++ " \x7d from \"typeorm\";\n\n" ++
        assembled (TypeOrm.fragments s.resolve))
  sqlAlchemy : ∃ names, Imported "sqlalchemy" ["Column"] (SqlAlchemy.fragments s.resolve) names ∧
    s.generate .sqlAlchemy = Format.sqlAlchemy.comment (Format.sqlAlchemy.title s.name) ++ "\n\n" ++
      ((if "uuid" ∈ usedFrom "uuid" (SqlAlchemy.fragments s.resolve) then "import uuid\n\n" else "") ++
        "from sqlalchemy import " ++ ", ".intercalate names ++ "\n" ++
        "from sqlalchemy.orm import declarative_base" ++
        (if "relationship" ∈ usedFrom "sqlalchemy.orm" (SqlAlchemy.fragments s.resolve) then ", relationship"
          else "") ++ "\n\n" ++ assembled (SqlAlchemy.fragments s.resolve))
  mongoose : s.generate .mongoose = Format.mongoose.comment (Format.mongoose.title s.name) ++ "\n\n" ++
    ("const mongoose = require('mongoose');\n" ++
      (if "randomUUID" ∈ usedFrom "crypto" (Mongoose.fragments s.resolve) then
        "const \x7b randomUUID \x7d = require('crypto');\n" else "") ++
      "\nconst \x7b Schema \x7d = mongoose;\n\n" ++ assembled (Mongoose.fragments s.resolve))

structure NamesUsed (s : Schema) : Prop where
  typeOrm : ∀ name, name ∈ usedFrom "typeorm" (TypeOrm.fragments s.resolve) ↔ name = "Entity" ∨
    (∃ e ∈ s.entities, ∃ c ∈ s.resolve.storedColumns e, name ∈ (TypeOrm.columnDecorators c).map (·.name)) ∨
    ∃ x ∈ s.resolve.ends, name ∈ (TypeOrm.relationMember x).decorators.map (·.name)
  sqlAlchemy : ∀ name, name ∈ usedFrom "sqlalchemy" (SqlAlchemy.fragments s.resolve) ↔
    (∃ j ∈ s.resolve.junctions, name ∈ SqlAlchemy.usedNames j) ∨
    (∃ e ∈ s.entities, ∃ c ∈ s.resolve.storedColumns e, name = "Column" ∨ name = SqlAlchemy.typeName c.type) ∨
    s.resolve.foreignKeys ≠ [] ∧ name = "ForeignKey"
  relationship :
    "relationship" ∈ usedFrom "sqlalchemy.orm" (SqlAlchemy.fragments s.resolve) ↔ s.resolve.ends ≠ []
  uuid : "uuid" ∈ usedFrom "uuid" (SqlAlchemy.fragments s.resolve) ↔ s.MakesUuid
  randomUuid : "randomUUID" ∈ usedFrom "crypto" (Mongoose.fragments s.resolve) ↔ s.MakesUuid

variable {s : Schema}

lemma namesUsed (h : s.entities ≠ []) : s.NamesUsed where
  typeOrm _ := TypeOrm.mem_usedFrom_iff h
  sqlAlchemy _ := SqlAlchemy.mem_usedFrom_iff
  relationship := by simp [SqlAlchemy.mem_orm_iff, SqlAlchemy.usesRelationships_iff]
  uuid := by simp [SqlAlchemy.mem_uuid_iff, SqlAlchemy.usesUuid_iff]
  randomUuid := by simp [Mongoose.mem_crypto_iff, Mongoose.usesUuid_iff]

lemma tables_ne_nil (h : s.entities ≠ []) : s.tables ≠ [] := by
  rintro htables
  exact h (by rw [entities, htables]; rfl)

theorem imports_match_use (s : Schema) (h : s.entities ≠ []) : s.ImportsUsed ∧ s.NamesUsed := by
  have htables := tables_ne_nil h
  have hrelationship : "relationship" ∈ usedFrom "sqlalchemy.orm" (SqlAlchemy.fragments s.resolve) ↔
      (SqlAlchemy.moduleOf s.resolve).usesRelationships = true := by
    simp [SqlAlchemy.mem_orm_iff]
  refine ⟨⟨⟨_, TypeOrm.imported h, ?_⟩, ⟨_, SqlAlchemy.imported s.resolve, ?_⟩, ?_⟩, namesUsed h⟩
  · rw [generate_of_opening htables .typeOrm rfl]
    exact congrArg (_ ++ ·) (TypeOrm.code_eq s.resolve)
  · simp only [generate_of_opening htables .sqlAlchemy rfl, SqlAlchemy.mem_uuid_iff, hrelationship, and_true]
    exact congrArg (_ ++ ·) (SqlAlchemy.code_eq s.resolve)
  · simp only [generate_of_opening htables .mongoose rfl, Mongoose.mem_crypto_iff, and_true]
    exact congrArg (_ ++ ·) (Mongoose.code_eq s.resolve)

theorem imports_match_use_sharedTeam :
    sharedTeam.entities ≠ [] ∧
      SqlAlchemy.Module.imports (SqlAlchemy.moduleOf sharedTeam.resolve) = ["Column", "ForeignKey", "Uuid"] ∧
      sharedTeam.ImportsUsed ∧ sharedTeam.NamesUsed :=
  ⟨by decide, by decide, imports_match_use sharedTeam (by decide)⟩

end Schema

end SchemaCode
