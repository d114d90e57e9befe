import Mathlib.Data.List.Basic
import SchemaCode.Generate
import SchemaCode.Proofs.Sql.Statements

/-! Generated code as lines in blocks, one block for each table. -/

namespace SchemaCode

namespace Resolution

def storedColumns (r : Resolution) (e : Entity) : List Column := r.columnsOf e ++ r.addedColumnsOf e.index

def keyedColumns (r : Resolution) (e : Entity) : List (Column × Option ForeignKey) :=
  (r.columnsOf e).map (fun c => (c, r.foreignKeyOn? e.index c.name)) ++
    (r.addedKeysOf e.index).map fun k => (k.toColumn, some k)

lemma columns_keyedColumns (r : Resolution) (e : Entity) : (r.keyedColumns e).map (·.1) = r.storedColumns e := by
  simp [keyedColumns, storedColumns, addedColumnsOf, Function.comp_def]

end Resolution

def separated (gap : String) (lines : List String) : String :=
  if lines.isEmpty then "" else gap.intercalate lines ++ "\n"

def apart (gap : String) (lines : List String) : List String := if lines.isEmpty then [] else gap :: lines

lemma join_apart (gap : String) (lines : List String) :
    String.join (apart gap lines) = (if lines.isEmpty then "" else gap) ++ String.join lines := by
  cases lines <;> simp [apart]

lemma join_map_map {α β : Type} (xs : List α) {f : α → β} {g : β → String} {h : α → String}
    (hfg : ∀ x, g (f x) = h x) : String.join ((xs.map f).map g) = String.join (xs.map h) := by
  rw [List.map_map]
  exact congrArg String.join (List.map_congr_left fun x _ => hfg x)

namespace Prisma

variable {r : Resolution} {e : Entity}

def lines (r : Resolution) (e : Entity) : List String :=
  (r.columnsOf e).map renderColumn ++
    apart "\n  // Relationships\n" (((r.endsOf e.index).flatMap endLines).map (·.render))

def framed (e : Entity) (lines : List String) : String :=
  "model " ++ e.name ++ " \x7b\n" ++ String.join lines ++ "\x7d\n\n"

lemma Model.render_eq (m : Model) : m.render = "model " ++ m.name ++ " \x7b\n" ++
    String.join (m.columns.map renderColumn ++ apart "\n  // Relationships\n" (m.relations.map (·.render))) ++
      "\x7d\n\n" := by
  rcases m with ⟨name, columns, _ | ⟨line, rest⟩⟩
  · simp [Model.render, apart]
  · simp [Model.render, apart, String.append_assoc]

lemma framed_model : (model r e).render = framed e (lines r e) := (model r e).render_eq

lemma code_framed : code r = String.join (r.entities.map fun e => framed e (lines r e)) :=
  join_map_map r.entities fun _ => framed_model

end Prisma

namespace Sql

variable {r : Resolution}

def Statement.block? : Statement → Option (Entity × List String)
  | .createTable e columns constraints => some (e, columns.map (·.render) ++ constraints.map ("  " ++ ·.render))
  | .createJunction _ => none
  | .addConstraint _ => none

def framed (e : Entity) (lines : List String) : String :=
  "CREATE TABLE " ++ e.lowerName ++ " (\n" ++ separated ",\n" lines ++ ");\n\n"

def junctionTable (j : Junction) : String :=
  "CREATE TABLE " ++ j.name ++ " (\n" ++ separated ",\n"
    [sideDefinition j.source, sideDefinition j.target,
      "  PRIMARY KEY (" ++ j.source.column ++ ", " ++ j.target.column ++ ")",
      sideClause j.source, sideClause j.target] ++ ");\n\n"

def below (r : Resolution) : String :=
  String.join (r.junctions.map junctionTable) ++
    String.join ((createTables r [] r.dependencyOrder).2.map fun c =>
      "ALTER TABLE " ++ c.owner.lowerName ++ " ADD " ++ c.render ++ ";\n")

lemma render_createTables (r : Resolution) (created : List Nat) (rest : List Entity) :
    (createTables r created rest).1.map (·.render) =
      ((createTables r created rest).1.filterMap (·.block?)).map fun (e, lines) => framed e lines := by
  induction rest generalizing created with
  | nil => rfl
  | cons e rest ih =>
    rw [createTables_cons, List.map_cons, ih]
    rfl

lemma blocks_statements (r : Resolution) : (statements r).filterMap (·.block?) =
    (createTables r [] r.dependencyOrder).1.filterMap (·.block?) := by
  have hjunctions : (r.junctions.map Statement.createJunction).filterMap (·.block?) = [] := by
    simp [List.filterMap_map, Statement.block?]
  have hwaiting : ∀ cs : List Constraint, (cs.map Statement.addConstraint).filterMap (·.block?) = [] := by
    simp [List.filterMap_map, Statement.block?]
  rw [statements_eq, List.filterMap_append, List.filterMap_append, hjunctions, hwaiting, List.append_nil,
    List.append_nil]

lemma code_framed : code r =
    String.join (((statements r).filterMap (·.block?)).map fun (e, lines) => framed e lines) ++ below r := by
  rw [code, blocks_statements, statements_eq, List.map_append, List.map_append, String.join_append,
    String.join_append, render_createTables, below, String.append_assoc, List.map_map, List.map_map]
  rfl

end Sql

namespace Sequelize

variable {r : Resolution} {e : Entity}

def lines (r : Resolution) (e : Entity) : List String := (attributes r e).map (·.render)

def framed (e : Entity) (lines : List String) : String :=
  "const " ++ e.name ++ " = sequelize.define('" ++ e.name ++ "', \x7b\n" ++ separated ",\n" lines ++
    "\x7d, \x7b\n  tableName: '" ++ e.lowerName ++ "'\n\x7d);\n\n"

def below (r : Resolution) (calls : List String) : String :=
  String.join (apart "// Associations\n" calls) ++ (if calls.isEmpty then "" else "\n") ++
    "module.exports = \x7b sequelize, " ++ ", ".intercalate (r.entities.map (·.name)) ++ " \x7d;\n"

lemma framed_model : (Model.mk e (attributes r e)).render = framed e (lines r e) := by
  simp only [Model.render, framed, separated, lines, List.isEmpty_map]

lemma code_framed : code r =
    preamble ++ String.join (r.entities.map fun e => framed e (lines r e)) ++
      below r ((associations r).map (·.render)) := by
  have hcalls : ∀ as : List Association, (if as.isEmpty then ""
      else "// Associations\n" ++ String.join (as.map (·.render)) ++ "\n") =
        String.join (apart "// Associations\n" (as.map (·.render))) ++
          if (as.map (·.render)).isEmpty then "" else "\n" := by
    intro as
    cases as <;> simp [apart]
  rw [code, models, join_map_map r.entities fun _ => framed_model, hcalls, below]
  simp only [String.append_assoc]

end Sequelize

namespace TypeOrm

variable {r : Resolution} {e : Entity}

def remarked : List String → List String
  | [] => []
  | first :: rest => ("  // Relationships\n" ++ first) :: rest

def lines (r : Resolution) (e : Entity) : List String :=
  (r.columnsOf e).map (fun c => (columnMember c).render) ++
    remarked ((r.addedColumnsOf e.index).map (fun c => (columnMember c).render) ++
      (r.endsOf e.index).map fun x => (relationMember x).render)

def framed (e : Entity) (lines : List String) : String :=
  "@Entity(\"" ++ e.lowerName ++ "\")\nexport class " ++ e.name ++ " \x7b\n" ++ separated "\n\n" lines ++ "\x7d\n\n"

def above (r : Resolution) : String :=
  "import \x7b " ++ ", ".intercalate (imports (classes r)) ++ " \x7d from \"typeorm\";\n\n"

lemma members_entityClass (r : Resolution) (e : Entity) : (entityClass r e).members = lines r e := by
  rw [EntityClass.members, lines]
  simp only [entityClass, List.map_append, List.map_map]
  rfl

lemma framed_class : (entityClass r e).render = framed e (lines r e) := by
  rw [EntityClass.render, members_entityClass, framed, separated]
  simp only [Decorator.render, Decorator.name, Decorator.arguments, entityClass, String.append_assoc]
  rfl

lemma code_framed : code r = above r ++ String.join (r.entities.map fun e => framed e (lines r e)) := by
  rw [code, above, ← join_map_map r.entities fun _ => framed_class]
  rfl

end TypeOrm

namespace SqlAlchemy

variable {r : Resolution} {e : Entity}

def lines (r : Resolution) (e : Entity) : List String :=
  (columns r e).map (·.render) ++ apart "\n" ((r.endsOf e.index).map relationshipLine)

def framed (e : Entity) (lines : List String) : String :=
  "\n\nclass " ++ e.name ++ "(Base):\n    __tablename__ = \"" ++ e.lowerName ++ "\"\n\n" ++ String.join lines

def above (r : Resolution) : String :=
  let m := moduleOf r
  (if m.usesUuid then "import uuid\n\n" else "") ++ "from sqlalchemy import " ++ ", ".intercalate m.imports ++ "\n" ++
    "from sqlalchemy.orm import declarative_base" ++ (if m.usesRelationships then ", relationship" else "") ++
    "\n\n" ++ "Base = declarative_base()\n" ++ String.join (r.junctions.map fun j => "\n\n" ++ associationTable j)

lemma framed_class : "\n\n" ++ (mappedClass r e).render = framed e (lines r e) := by
  have hclass : "\n\nclass " = "\n\n" ++ "class " := rfl
  rw [framed, lines, String.join_append, join_apart, hclass]
  delta MappedClass.render
  simp only [mappedClass, List.isEmpty_map, String.append_assoc]
  rfl

lemma code_framed : code r = above r ++ String.join (r.entities.map fun e => framed e (lines r e)) := by
  delta code Module.render above
  simp only [moduleOf, List.map_append, List.map_map, Function.comp_def, framed_class, String.join_append,
    String.append_assoc]

end SqlAlchemy

namespace Mongoose

variable {r : Resolution} {e : Entity}

def lines (r : Resolution) (e : Entity) : List String := (model r e).fields.map (·.render)

def virtuals (r : Resolution) (e : Entity) : List String := (model r e).virtuals.map (·.render (model r e).schema)

def schemaName (name : String) : String := Text.lowerFirst name ++ "Schema"

def framed (name : String) (lines virtuals : List String) : String :=
  "const " ++ schemaName name ++ " = new Schema(\x7b\n" ++ separated ",\n" lines ++ "\x7d" ++
    (if virtuals.isEmpty then ""
      else ", \x7b\n  toJSON: \x7b virtuals: true \x7d,\n  toObject: \x7b virtuals: true \x7d\n\x7d") ++
    ");\n\n" ++ String.join virtuals ++
    "const " ++ name ++ " = mongoose.model('" ++ name ++ "', " ++ schemaName name ++ ");\n\n"

def above (r : Resolution) : String :=
  "const mongoose = require('mongoose');\n" ++
    (if usesUuid (models r) then "const \x7b randomUUID \x7d = require('crypto');\n" else "") ++
    "\nconst \x7b Schema \x7d = mongoose;\n\n"

def below (r : Resolution) : String :=
  "module.exports = \x7b " ++ ", ".intercalate (r.entities.map (·.name)) ++ " \x7d;\n"

lemma framed_model : (model r e).render = framed e.name (lines r e) (virtuals r e) := by
  delta framed Model.render
  simp only [separated, lines, virtuals, List.isEmpty_map, String.append_assoc]
  rfl

lemma code_framed : code r =
    above r ++ String.join (r.entities.map fun e => framed e.name (lines r e) (virtuals r e)) ++ below r := by
  have hnames : (models r).map (·.name) = r.entities.map (·.name) := by
    rw [models, List.map_map]
    rfl
  have hmodels : String.join ((models r).map (·.render)) =
      String.join (r.entities.map fun e => framed e.name (lines r e) (virtuals r e)) :=
    join_map_map r.entities fun _ => framed_model
  delta code above below
  simp only [hnames, hmodels, String.append_assoc]

end Mongoose

namespace TypeScript

variable {r : Resolution} {e : Entity}

def lines (r : Resolution) (e : Entity) : List String :=
  (r.columnsOf e).map (fun c => "  " ++ c.name ++ ": " ++ typeName c.type ++ ";\n") ++
    apart "\n" ((r.endsOf e.index).map fun x => "  " ++ x.field ++ "?: " ++ relatedType x ++ ";\n")

def framed (e : Entity) (lines : List String) : String :=
  "export interface " ++ e.name ++ " \x7b\n" ++ String.join lines ++ "\x7d\n\n"

lemma framed_interface : (Interface.mk e.name (r.columnsOf e) (r.endsOf e.index)).render = framed e (lines r e) := by
  delta framed Interface.render
  simp only [lines, String.join_append, join_apart, List.isEmpty_map, String.append_assoc]

lemma code_framed : code r = String.join (r.entities.map fun e => framed e (lines r e)) :=
  join_map_map r.entities fun _ => framed_interface

end TypeScript

namespace Dbml

variable {r : Resolution} {e : Entity}

def lines (r : Resolution) (e : Entity) : List String := (block r e).columns.map (·.render)

def framed (e : Entity) (lines : List String) : String :=
  "Table " ++ e.lowerName ++ " \x7b\n" ++ String.join lines ++ "\x7d\n\n"

lemma framed_block : (block r e).render = framed e (lines r e) := rfl

lemma code_framed :
    code r = String.join (r.entities.map fun e => framed e (lines r e)) ++ String.join (refLines r) :=
  congrArg (· ++ String.join (refLines r)) (join_map_map r.entities fun _ => framed_block)

end Dbml

namespace Format

def blocks (f : Format) (r : Resolution) : List (Entity × List String) :=
  match f with
  | .prisma => r.entities.map fun e => (e, Prisma.lines r e)
  | .sql => (Sql.statements r).filterMap (·.block?)
  | .sequelize => r.entities.map fun e => (e, Sequelize.lines r e)
  | .typeOrm => r.entities.map fun e => (e, TypeOrm.lines r e)
  | .sqlAlchemy => r.entities.map fun e => (e, SqlAlchemy.lines r e)
  | .mongoose => r.entities.map fun e => (e, Mongoose.lines r e)
  | .dbml => r.entities.map fun e => (e, Dbml.lines r e)
  | .typeScript => r.entities.map fun e => (e, TypeScript.lines r e)

def framed (f : Format) (r : Resolution) (e : Entity) (lines : List String) : String :=
  match f with
  | .prisma => Prisma.framed e lines
  | .sql => Sql.framed e lines
  | .sequelize => Sequelize.framed e lines
  | .typeOrm => TypeOrm.framed e lines
  | .sqlAlchemy => SqlAlchemy.framed e lines
  | .mongoose => Mongoose.framed e.name lines (Mongoose.virtuals r e)
  | .dbml => Dbml.framed e lines
  | .typeScript => TypeScript.framed e lines

def above (f : Format) (r : Resolution) : String :=
  match f with
  | .prisma => Prisma.preamble
  | .sequelize => Sequelize.preamble
  | .typeOrm => TypeOrm.above r
  | .sqlAlchemy => SqlAlchemy.above r
  | .mongoose => Mongoose.above r
  | _ => ""

def below (f : Format) (r : Resolution) : String :=
  match f with
  | .sql => Sql.below r
  | .sequelize => Sequelize.below r ((Sequelize.associations r).map (·.render))
  | .mongoose => Mongoose.below r
  | .dbml => String.join (Dbml.refLines r)
  | _ => ""

def laidOut (f : Format) (r : Resolution) : String :=
  f.above r ++ String.join ((f.blocks r).map fun (e, lines) => f.framed r e lines) ++ f.below r

variable {r : Resolution}

lemma join_framed (f : Format) {lines : Entity → List String}
    (h : f.blocks r = r.entities.map fun e => (e, lines e)) :
    String.join ((f.blocks r).map fun (e, lines) => f.framed r e lines) =
      String.join (r.entities.map fun e => f.framed r e (lines e)) := by
  rw [h, List.map_map]
  rfl

lemma code_eq_laidOut (f : Format) : f.opening ++ f.code r = f.laidOut r := by
  cases f with
  | prisma =>
    rw [laidOut, join_framed prisma rfl]
    show Prisma.preamble ++ Prisma.code r = Prisma.preamble ++ _ ++ ""
    rw [Prisma.code_framed, String.append_empty]
    rfl
  | sql =>
    show "" ++ Sql.code r = "" ++ _ ++ Sql.below r
    rw [Sql.code_framed, String.empty_append, String.empty_append]
    rfl
  | sequelize =>
    rw [laidOut, join_framed sequelize rfl]
    exact String.empty_append.trans Sequelize.code_framed
  | typeOrm =>
    rw [laidOut, join_framed typeOrm rfl]
    exact String.empty_append.trans (TypeOrm.code_framed.trans String.append_empty.symm)
  | sqlAlchemy =>
    rw [laidOut, join_framed sqlAlchemy rfl]
    exact String.empty_append.trans (SqlAlchemy.code_framed.trans String.append_empty.symm)
  | mongoose =>
    rw [laidOut, join_framed mongoose rfl]
    exact String.empty_append.trans Mongoose.code_framed
  | dbml =>
    rw [laidOut, join_framed dbml rfl]
    exact String.empty_append.trans Dbml.code_framed
  | typeScript =>
    rw [laidOut, join_framed typeScript rfl]
    exact String.empty_append.trans (TypeScript.code_framed.trans String.append_empty.symm)

end Format

namespace Schema

variable {s : Schema}

lemma generate_eq (h : s.tables ≠ []) (f : Format) :
    s.generate f = f.comment (f.title s.name) ++ "\n\n" ++ (f.opening ++ f.code s.resolve) := by
  have htables : s.resolve.hasTables = true := by
    simpa [Schema.resolve, Draft.resolution] using h
  rw [generate, Format.body, if_pos htables]

lemma generate_of_opening (h : s.tables ≠ []) (f : Format) (hf : f.opening = "") :
    s.generate f = f.comment (f.title s.name) ++ "\n\n" ++ f.code s.resolve := by
  rw [generate_eq h, hf, String.empty_append]

lemma generate_laidOut (h : s.tables ≠ []) (f : Format) :
    s.generate f = f.comment (f.title s.name) ++ "\n\n" ++ f.laidOut s.resolve := by
  rw [generate_eq h, Format.code_eq_laidOut]

end Schema

end SchemaCode
