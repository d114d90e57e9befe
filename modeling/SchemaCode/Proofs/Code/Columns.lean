import SchemaCode.Proofs.Code.Parts
import SchemaCode.Proofs.Relation.DependencyOrder
import SchemaCode.Proofs.Relation.Ends

namespace SchemaCode

namespace Link

def KeyInPlace (l : Link) : Prop := ∀ key atSource, l.storage = .column key atSource →
  key.owner = if atSource then l.source else l.target

lemma ownedKeys_ends {l : Link} (h : l.KeyInPlace) (k t : Nat) :
    ([l.sourceEnd k, l.targetEnd k].filter (·.entity.index == t)).flatMap (·.role.ownedKey?.toList) =
      l.foreignKey?.toList.filter (·.owner.index == t) := by
  have hends : ∀ x y : End, ([x, y].filter (·.entity.index == t)).flatMap (·.role.ownedKey?.toList) =
      (if x.entity.index = t then x.role.ownedKey?.toList else []) ++
        if y.entity.index = t then y.role.ownedKey?.toList else [] := by
    intro x y
    by_cases hx : x.entity.index = t <;> by_cases hy : y.entity.index = t <;> simp [hx, hy]
  rw [hends]
  cases hs : l.storage with
  | junction j forward => simp [sourceEnd, sourceRole, targetEnd, targetRole, foreignKey?, hs, Role.ownedKey?]
  | column key atSource =>
    have howner := h key atSource hs
    cases atSource <;>
      simp [sourceEnd, sourceRole, targetEnd, targetRole, foreignKey?, hs, Role.ownedKey?, howner, List.filter_cons]

end Link

lemma Resolution.ownedKeys_endsOf {r : Resolution} (h : ∀ l ∈ r.links, l.KeyInPlace) (t : Nat) :
    (r.endsOf t).filterMap (·.role.ownedKey?) = r.foreignKeysOf t := by
  rw [List.filterMap_eq_flatMap_toList, flatMap_endsOf fun l hl k => l.ownedKeys_ends (h l hl) k t, foreignKeysOf,
    foreignKeys, List.filterMap_eq_flatMap_toList, List.filter_flatMap]

section Parts

variable {r : Resolution} {e : Entity}

lemma filterMap_apartParts {β : Type} {g : Part → Option β} (hgap : g .gap = none) (parts : List Part) :
    (apartParts parts).filterMap g = parts.filterMap g := by
  cases parts with
  | nil => rfl
  | cons p rest => exact List.filterMap_cons_none hgap

lemma columns_declaredParts (r : Resolution) (e : Entity) : (r.declaredParts e).filterMap (·.column?) =
    (r.columnsOf e).map fun c => (c, r.foreignKeyOn? e.index c.name) := by
  simp [Resolution.declaredParts, List.filterMap_map, Part.column?]

lemma columns_storedParts (r : Resolution) (e : Entity) :
    (r.declaredParts e ++ r.addedParts e).filterMap (·.column?) = r.keyedColumns e := by
  have hadded : (r.addedParts e).filterMap (·.column?) = (r.addedKeysOf e.index).map fun k => (k.toColumn, some k) := by
    simp [Resolution.addedParts, List.filterMap_map, Part.column?]
  rw [List.filterMap_append, columns_declaredParts, hadded]
  rfl

lemma columns_relationParts (r : Resolution) (e : Entity) : (r.relationParts e).filterMap (·.column?) = [] := by
  simp [Resolution.relationParts, List.filterMap_map, Part.column?]

lemma relations_declaredParts (r : Resolution) (e : Entity) : (r.declaredParts e).filterMap (·.relation?) = [] := by
  simp [Resolution.declaredParts, List.filterMap_map, Part.relation?]

lemma relations_storedParts (r : Resolution) (e : Entity) :
    (r.declaredParts e ++ r.addedParts e).filterMap (·.relation?) = [] := by
  have hadded : (r.addedParts e).filterMap (·.relation?) = [] := by
    simp [Resolution.addedParts, List.filterMap_map, Part.relation?]
  rw [List.filterMap_append, relations_declaredParts, hadded, List.append_nil]

lemma relations_relationParts (r : Resolution) (e : Entity) :
    (r.relationParts e).filterMap (·.relation?) = r.endsOf e.index := by
  simp [Resolution.relationParts, List.filterMap_map, Part.relation?]

end Parts

namespace Prisma

lemma columns_endParts (x : End) : (endParts x).filterMap (·.column?) =
    (x.role.ownedKey?.toList.filter (·.synthesized)).map fun k => (k.toColumn, some k) := by
  simp [endParts, List.filterMap_map, Part.column?]

lemma relations_endParts (x : End) : (endParts x).filterMap (·.relation?) = [x] := by
  simp [endParts, List.filterMap_map, Part.relation?]

end Prisma

namespace Sql

lemma tables_createTables (r : Resolution) (created : List Nat) (rest : List Entity) :
    ((createTables r created rest).1.filterMap (·.block?)).map (·.1) = rest := by
  induction rest generalizing created with
  | nil => rfl
  | cons e rest ih =>
    have hblock : ∀ inside, (Statement.createTable e (columnsOf r e) inside).block? =
        some (e, (columnsOf r e).map (·.render) ++ inside.map ("  " ++ ·.render)) := fun _ => rfl
    rw [createTables_cons, List.filterMap_cons_some (hblock _), List.map_cons, ih]

lemma exists_inside {r : Resolution} {e : Entity} {lines : List String}
    (h : (e, lines) ∈ (statements r).filterMap (·.block?)) : ∃ inside : List Constraint,
      lines = (columnsOf r e).map (·.render) ++ inside.map ("  " ++ ·.render) := by
  rw [blocks_statements] at h
  obtain ⟨st, hst, hblock⟩ := List.mem_filterMap.mp h
  obtain ⟨e', -, inside, rfl, -⟩ := mem_createTables hst
  obtain ⟨rfl, rfl⟩ := Prod.mk.inj (Option.some.inj hblock)
  exact ⟨inside, rfl⟩

end Sql

namespace Format

def Spells : Format → Part → String → Prop
  | .prisma => Prisma.Spells
  | .sql => Sql.Spells
  | .sequelize => Sequelize.Spells
  | .typeOrm => TypeOrm.Spells
  | .sqlAlchemy => SqlAlchemy.Spells
  | .mongoose => Mongoose.Spells
  | .dbml => Dbml.Spells
  | .typeScript => TypeScript.Spells

def columnsIn (f : Format) (r : Resolution) (e : Entity) : List (Column × Option ForeignKey) :=
  match f with
  | .typeScript => (r.columnsOf e).map fun c => (c, r.foreignKeyOn? e.index c.name)
  | _ => r.keyedColumns e

def endsIn (f : Format) (r : Resolution) (e : Entity) : List End :=
  match f with
  | .sql | .sequelize | .dbml => []
  | .mongoose => (r.endsOf e.index).filter Mongoose.isArray
  | _ => r.endsOf e.index

/-- The lines of a table, and what they stand for. Only Prisma has other lines between the columns. -/
structure Consists (f : Format) (r : Resolution) (e : Entity) (parts : List Part) (lines : List String) : Prop where
  spelled : List.Forall₂ f.Spells parts lines
  columns : parts.filterMap (·.column?) = f.columnsIn r e
  ends : parts.filterMap (·.relation?) = f.endsIn r e
  first : f ≠ .prisma → ∃ others, parts = (f.columnsIn r e).map (fun (c, key?) => .column c key?) ++ others

variable {r : Resolution} {e : Entity}

lemma fst_columnsIn (f : Format) (r : Resolution) (e : Entity) : (f.columnsIn r e).map (·.1) =
    r.columnsOf e ++ if f = .typeScript then [] else r.addedColumnsOf e.index := by
  have hstored := r.columns_keyedColumns e
  cases f
  case typeScript => simp [columnsIn, Function.comp_def]
  all_goals exact hstored

lemma consists_of_stored {f : Format} {rest : List Part} {lines : List String}
    (hcolumns : f.columnsIn r e = r.keyedColumns e)
    (hspelled : List.Forall₂ f.Spells (r.declaredParts e ++ r.addedParts e ++ rest) lines)
    (hrest : rest.filterMap (·.column?) = []) (hends : rest.filterMap (·.relation?) = f.endsIn r e) :
    f.Consists r e (r.declaredParts e ++ r.addedParts e ++ rest) lines where
  spelled := hspelled
  columns := by rw [List.filterMap_append, columns_storedParts, hrest, List.append_nil, hcolumns]
  ends := by rw [List.filterMap_append, relations_storedParts, hends, List.nil_append]
  first _ := by
    refine ⟨rest, ?_⟩
    rw [hcolumns, Resolution.keyedColumns, List.map_append, List.map_map, List.map_map]
    rfl

lemma consists_prisma (h : ∀ l ∈ r.links, l.KeyInPlace) :
    prisma.Consists r e (Prisma.parts r e) (Prisma.lines r e) where
  spelled := Prisma.spells_lines r e
  columns := by
    have hadded : ((r.endsOf e.index).flatMap Prisma.endParts).filterMap (·.column?) =
        (r.addedKeysOf e.index).map fun k => (k.toColumn, some k) := by
      rw [Resolution.addedKeysOf, ← Resolution.ownedKeys_endsOf h, List.filterMap_flatMap,
        List.filterMap_eq_flatMap_toList, List.filter_flatMap, List.map_flatMap]
      exact List.flatMap_congr fun x _ => Prisma.columns_endParts x
    rw [Prisma.parts, List.filterMap_append, columns_declaredParts, filterMap_apartParts rfl, hadded]
    rfl
  ends := by
    have hends : ((r.endsOf e.index).flatMap Prisma.endParts).filterMap (·.relation?) = r.endsOf e.index := by
      rw [List.filterMap_flatMap, List.flatMap_congr fun x _ => Prisma.relations_endParts x]
      exact List.flatMap_singleton' _
    rw [Prisma.parts, List.filterMap_append, relations_declaredParts, filterMap_apartParts rfl, hends]
    rfl
  first h := absurd rfl h

lemma consists_sql (inside : List Sql.Constraint) : sql.Consists r e (Sql.parts r e inside)
    ((Sql.columnsOf r e).map (·.render) ++ inside.map ("  " ++ ·.render)) := by
  refine consists_of_stored rfl (Sql.spells_lines r e inside) ?_ ?_
  · simp [List.filterMap_map, Part.column?]
  · simp [List.filterMap_map, Part.relation?, endsIn]

lemma consists_sequelize : sequelize.Consists r e (Sequelize.parts r e ++ []) (Sequelize.lines r e) :=
  consists_of_stored rfl ((List.append_nil _).symm ▸ Sequelize.spells_lines r e) rfl rfl

lemma consists_typeOrm :
    typeOrm.Consists r e (r.declaredParts e ++ r.addedParts e ++ r.relationParts e) (TypeOrm.lines r e) :=
  consists_of_stored rfl ((List.append_assoc _ _ _).symm ▸ TypeOrm.spells_lines r e) (columns_relationParts r e)
    (relations_relationParts r e)

lemma consists_sqlAlchemy : sqlAlchemy.Consists r e (SqlAlchemy.parts r e) (SqlAlchemy.lines r e) := by
  refine consists_of_stored rfl (SqlAlchemy.spells_lines r e) ?_ ?_
  · rw [filterMap_apartParts rfl, columns_relationParts]
  · rw [filterMap_apartParts rfl, relations_relationParts]
    rfl

lemma consists_mongoose : mongoose.Consists r e (Mongoose.parts r e) (Mongoose.lines r e) := by
  refine consists_of_stored rfl (Mongoose.spells_lines r e) ?_ ?_
  · simp [List.filterMap_map, Part.column?]
  · simp [List.filterMap_map, Part.relation?, endsIn]

lemma consists_dbml : dbml.Consists r e (Dbml.parts r e ++ []) (Dbml.lines r e) :=
  consists_of_stored rfl ((List.append_nil _).symm ▸ Dbml.spells_lines r e) rfl rfl

lemma consists_typeScript : typeScript.Consists r e (TypeScript.parts r e) (TypeScript.lines r e) where
  spelled := TypeScript.spells_lines r e
  columns := by
    rw [TypeScript.parts, List.filterMap_append, columns_declaredParts, filterMap_apartParts rfl, columns_relationParts,
      List.append_nil]
    rfl
  ends := by
    rw [TypeScript.parts, List.filterMap_append, relations_declaredParts, filterMap_apartParts rfl,
      relations_relationParts]
    rfl
  first _ := by
    refine ⟨apartParts (r.relationParts e), ?_⟩
    rw [columnsIn, List.map_map]
    rfl

lemma tables_blocks (f : Format) (r : Resolution) :
    (f.blocks r).map (·.1) = if f = .sql then r.dependencyOrder else r.entities := by
  have hentities : ∀ lines : Entity → List String, (r.entities.map fun e => (e, lines e)).map (·.1) = r.entities := by
    intro lines
    rw [List.map_map]
    exact List.map_id _
  cases f with
  | sql =>
    rw [blocks, Sql.blocks_statements]
    exact Sql.tables_createTables r [] r.dependencyOrder
  | _ => exact hentities _

lemma exists_parts (h : ∀ l ∈ r.links, l.KeyInPlace) {f : Format} {lines : List String}
    (hblock : (e, lines) ∈ f.blocks r) : ∃ parts, f.Consists r e parts lines := by
  have hmap : ∀ g : Entity → List String, (e, lines) ∈ r.entities.map (fun e => (e, g e)) → lines = g e := by
    intro g hg
    obtain ⟨e', -, he⟩ := List.mem_map.mp hg
    obtain ⟨rfl, rfl⟩ := Prod.mk.inj he
    rfl
  cases f with
  | prisma => exact ⟨_, hmap _ hblock ▸ consists_prisma h⟩
  | sql =>
    obtain ⟨inside, rfl⟩ := Sql.exists_inside hblock
    exact ⟨_, consists_sql inside⟩
  | sequelize => exact ⟨_, hmap _ hblock ▸ consists_sequelize⟩
  | typeOrm => exact ⟨_, hmap _ hblock ▸ consists_typeOrm⟩
  | sqlAlchemy => exact ⟨_, hmap _ hblock ▸ consists_sqlAlchemy⟩
  | mongoose => exact ⟨_, hmap _ hblock ▸ consists_mongoose⟩
  | dbml => exact ⟨_, hmap _ hblock ▸ consists_dbml⟩
  | typeScript => exact ⟨_, hmap _ hblock ▸ consists_typeScript⟩

end Format

namespace Sql

lemma columnsOf_eq (r : Resolution) (e : Entity) : (columnsOf r e).map (·.column) = r.storedColumns e := by
  simp [columnsOf, Resolution.storedColumns, Function.comp_def]

end Sql

namespace Sequelize

lemma attributes_eq (r : Resolution) (e : Entity) :
    attributes r e = (r.keyedColumns e).map fun p => ⟨p.1, p.2⟩ := by
  simp [attributes, Resolution.keyedColumns, Function.comp_def]

end Sequelize

namespace SqlAlchemy

lemma columns_eq (r : Resolution) (e : Entity) : columns r e = (r.keyedColumns e).map fun p => ⟨p.1, p.2⟩ := by
  simp [columns, Resolution.keyedColumns, Function.comp_def]

end SqlAlchemy

namespace Mongoose

lemma columnFields_eq (r : Resolution) (e : Entity) :
    columnFields r e = (r.keyedColumns e).map fun p => .column p.1 p.2 := by
  simp [columnFields, Resolution.keyedColumns, Function.comp_def]

end Mongoose

namespace Schema

variable {s : Schema}

lemma keyInPlace {l : Link} (hl : l ∈ s.resolve.links) : l.KeyInPlace := by
  intro key atSource h
  obtain ⟨k, hk⟩ := List.mem_iff_getElem?.mp hl
  obtain ⟨r, rs, a, b, -, m⟩ := exists_made_of_link hk
  obtain ⟨o, ho, rfl, rfl⟩ := m.exists_ownership h
  obtain ⟨hsource, htarget⟩ := m.sides ho
  show o.owner = _
  rw [m.grows.source, m.grows.target]
  by_cases hi : o.owner.index = a.index
  · simpa [hi] using (hsource hi).1
  · simpa [hi] using (htarget hi).1

theorem formats_write_columns (s : Schema) (h : s.tables ≠ []) (f : Format) :
    s.generate f = f.comment (f.title s.name) ++ "\n\n" ++ f.laidOut s.resolve ∧
      ((f.blocks s.resolve).map (·.1)).Perm s.entities ∧
      (f ≠ .sql → (f.blocks s.resolve).map (·.1) = s.entities) ∧
      ∀ e lines, (e, lines) ∈ f.blocks s.resolve → ∃ parts, f.Consists s.resolve e parts lines ∧
        (parts.filterMap (·.column?)).map (·.1) =
          s.resolve.columnsOf e ++ if f = .typeScript then [] else s.resolve.addedColumnsOf e.index := by
  refine ⟨generate_laidOut h f, ?_, ?_, ?_⟩
  · rw [Format.tables_blocks]
    split
    · exact entities_resolve ▸ Resolution.perm_dependencyOrder s.sorted_resolve
    · rw [entities_resolve]
  · intro hf
    rw [Format.tables_blocks, if_neg hf, entities_resolve]
  · intro e lines hblock
    obtain ⟨parts, hparts⟩ := Format.exists_parts (fun l => keyInPlace) hblock
    exact ⟨parts, hparts, hparts.columns ▸ f.fst_columnsIn s.resolve e⟩

def sharedTeam : Schema where
  tables := [
    { id := "n", name := "Note", columns := none },
    { id := "a", name := "User", columns := some [{ name := "id", type := .uuid, primary := true }] },
    { id := "b", name := "Team", columns := some [{ name := "id", type := .uuid, primary := true }] }]
  relationships := [
    { source := "b", target := "a", declared := some .oneToMany },
    { source := "a", target := "a", declared := some .oneToOne },
    { source := "a", target := "b", declared := some .manyToOne }]

theorem formats_write_columns_sharedTeam :
    sharedTeam.tables ≠ [] ∧
      (sharedTeam.entities.map fun e => (sharedTeam.resolve.storedColumns e).map (·.name)) =
        [["id", "team_id", "user_id"], ["id"]] ∧
      ∀ f : Format, sharedTeam.generate f =
          f.comment (f.title sharedTeam.name) ++ "\n\n" ++ f.laidOut sharedTeam.resolve ∧
        ((f.blocks sharedTeam.resolve).map (·.1)).Perm sharedTeam.entities ∧
        (f ≠ .sql → (f.blocks sharedTeam.resolve).map (·.1) = sharedTeam.entities) ∧
        ∀ e lines, (e, lines) ∈ f.blocks sharedTeam.resolve → ∃ parts, f.Consists sharedTeam.resolve e parts lines ∧
          (parts.filterMap (·.column?)).map (·.1) = sharedTeam.resolve.columnsOf e ++
            if f = .typeScript then [] else sharedTeam.resolve.addedColumnsOf e.index :=
  ⟨List.cons_ne_nil _ _, by decide, formats_write_columns sharedTeam (List.cons_ne_nil _ _)⟩

end Schema

end SchemaCode
