import Mathlib.Data.List.Basic
import SchemaCode.Code.Mongoose
import SchemaCode.Code.SqlAlchemy
import SchemaCode.Code.TypeOrm

namespace SchemaCode

/-- A part of generated code. Each use of a name from a library is a part of its own. -/
inductive Fragment where
  | plain (text : String)
  | use (library name : String)

namespace Fragment

def text : Fragment → String
  | plain text => text
  | use _ name => name

def from? (library : String) : Fragment → Option String
  | plain _ => none
  | use l name => if l = library then some name else none

end Fragment

def assembled (φ : List Fragment) : String := String.join (φ.map (·.text))

def usedFrom (library : String) (φ : List Fragment) : List String := φ.filterMap (·.from? library)

section Parts

variable {library l n t : String} {φ ψ : List Fragment} {f : Fragment}

@[simp] lemma assembled_nil : assembled [] = "" := rfl

@[simp] lemma assembled_cons : assembled (f :: φ) = f.text ++ assembled φ := by simp [assembled]

@[simp] lemma assembled_append : assembled (φ ++ ψ) = assembled φ ++ assembled ψ := by simp [assembled]

@[simp] lemma usedFrom_nil : usedFrom library [] = [] := rfl

@[simp] lemma usedFrom_plain : usedFrom library (.plain t :: φ) = usedFrom library φ := rfl

@[simp] lemma usedFrom_use :
    usedFrom library (.use l n :: φ) = (if l = library then [n] else []) ++ usedFrom library φ := by
  by_cases h : l = library <;> simp [usedFrom, Fragment.from?, h]

@[simp] lemma usedFrom_append : usedFrom library (φ ++ ψ) = usedFrom library φ ++ usedFrom library ψ := by
  simp [usedFrom]

lemma assembled_flatMap {α : Type} (xs : List α) (g : α → List Fragment) :
    assembled (xs.flatMap g) = String.join (xs.map fun x => assembled (g x)) := by
  induction xs with
  | nil => rfl
  | cons x xs ih => simp [ih]

lemma usedFrom_flatMap {α : Type} (xs : List α) (g : α → List Fragment) :
    usedFrom library (xs.flatMap g) = xs.flatMap fun x => usedFrom library (g x) := List.filterMap_flatMap

lemma assembled_intercalate (t : String) (φs : List (List Fragment)) :
    assembled ([.plain t].intercalate φs) = t.intercalate (φs.map assembled) := by
  induction φs with
  | nil => rfl
  | cons φ φs ih =>
    cases φs with
    | nil => simp
    | cons ψ φs => simpa [List.intercalate_cons_cons, Fragment.text, String.append_assoc] using ih

lemma usedFrom_intercalate (t : String) (φs : List (List Fragment)) :
    usedFrom library ([.plain t].intercalate φs) = φs.flatMap (usedFrom library) := by
  induction φs with
  | nil => rfl
  | cons φ φs ih =>
    cases φs with
    | nil => simp
    | cons ψ φs => simpa [List.intercalate_cons_cons] using ih

lemma usedFrom_lines (t u : String) (φs : List (List Fragment)) :
    usedFrom library (if φs.isEmpty then [] else [.plain t].intercalate φs ++ [.plain u]) =
      φs.flatMap (usedFrom library) := by
  cases φs with
  | nil => rfl
  | cons φ φs => simp [usedFrom_intercalate]

end Parts

namespace TypeOrm

def Decorator.fragments (d : Decorator) : List Fragment :=
  [.plain "@", .use "typeorm" d.name, .plain ("(" ++ d.arguments ++ ")")]

def Member.fragments (m : Member) : List Fragment :=
  let lines := m.decorators.map Decorator.fragments ++ [[.plain (m.name ++ ": " ++ m.type ++ ";")]]
  [.plain "\n"].intercalate (lines.map (.plain "  " :: ·))

def EntityClass.memberFragments (c : EntityClass) : List (List Fragment) :=
  let relations := match c.relations.map (·.fragments) with
    | [] => []
    | first :: rest => (.plain "  // Relationships\n" :: first) :: rest
  c.columns.map (·.fragments) ++ relations

def EntityClass.fragments (c : EntityClass) : List Fragment :=
  let members := if c.memberFragments.isEmpty then []
    else [.plain "\n\n"].intercalate c.memberFragments ++ [.plain "\n"]
  (Decorator.entity c.table).fragments ++ .plain ("\nexport class " ++ c.name ++ " \x7b\n") :: members ++
    [.plain "\x7d\n\n"]

def fragments (r : Resolution) : List Fragment := (classes r).flatMap (·.fragments)

lemma assembled_decorator (d : Decorator) : assembled d.fragments = d.render := by
  simp [Decorator.fragments, Decorator.render, Fragment.text, String.append_assoc]

lemma assembled_member (m : Member) : assembled m.fragments = m.render := by
  simp [Member.fragments, Member.render, assembled_intercalate, Fragment.text, Function.comp_def, assembled_decorator]

lemma assembled_memberFragments (c : EntityClass) : c.memberFragments.map assembled = c.members := by
  rw [EntityClass.memberFragments, EntityClass.members]
  cases c.relations with
  | nil => simp [Function.comp_def, assembled_member]
  | cons m rest => simp [Function.comp_def, assembled_member, Fragment.text]

lemma assembled_class (c : EntityClass) : assembled c.fragments = c.render := by
  have hempty : c.memberFragments.isEmpty = c.members.isEmpty := by
    rw [← assembled_memberFragments, List.isEmpty_map]
  rw [EntityClass.fragments, EntityClass.render, hempty]
  cases c.members.isEmpty <;>
    simp [assembled_decorator, assembled_intercalate, assembled_memberFragments, Fragment.text, String.append_assoc]

lemma code_eq (r : Resolution) : code r =
    "import \x7b " ++ ", ".intercalate (imports (classes r)) ++ " \x7d from \"typeorm\";\n\n" ++
      assembled (fragments r) := by
  simp [code, fragments, assembled_flatMap, assembled_class]

end TypeOrm

namespace SqlAlchemy

def MappedColumn.argumentFragments (c : MappedColumn) : List (List Fragment) :=
  let reference : List (List Fragment) := match c.key with
    | some k => [[.use "sqlalchemy" "ForeignKey", .plain ("(" ++ target k.referenced k.referencedColumn ++ ")")]]
    | none => []
  let identity : List (List Fragment) := if c.column.primary then
      match c.column.type with
      | .uuid => [[.plain "primary_key=True"], [.plain "default=", .use "uuid" "uuid", .plain ".uuid4"]]
      | .integer => [[.plain "primary_key=True"], [.plain "autoincrement=True"]]
      | _ => [[.plain "primary_key=True"]]
    else []
  let unique : List (List Fragment) := if c.column.unique then [[.plain "unique=True"]] else []
  let notNull : List (List Fragment) := if c.key.isSome then [[.plain "nullable=False"]] else []
  [.use "sqlalchemy" (typeName c.column.type), .plain (typeArguments c.column.type)] ::
    reference ++ identity ++ unique ++ notNull

def MappedColumn.fragments (c : MappedColumn) : List Fragment :=
  .plain ("    " ++ c.column.name ++ " = ") :: .use "sqlalchemy" "Column" :: .plain "(" ::
    [.plain ", "].intercalate c.argumentFragments ++ [.plain ")\n"]

def relationshipFragments (e : End) : List Fragment :=
  let arguments := ["\"" ++ e.related.name ++ "\"", "back_populates=\"" ++ e.inverseField ++ "\""] ++
    storageArguments e
  [.plain ("    " ++ e.field ++ " = "), .use "sqlalchemy.orm" "relationship",
    .plain ("(" ++ ", ".intercalate arguments ++ ")\n")]

def MappedClass.fragments (c : MappedClass) : List Fragment :=
  .plain ("class " ++ c.entity.name ++ "(Base):\n    __tablename__ = \"" ++ c.entity.lowerName ++ "\"\n\n") ::
    c.columns.flatMap (·.fragments) ++ .plain (if c.relationships.isEmpty then "" else "\n") ::
      c.relationships.flatMap relationshipFragments

def sideFragments (s : JunctionSide) : List Fragment :=
  [.plain "    ", .use "sqlalchemy" "Column", .plain ("(\"" ++ s.column ++ "\", "),
    .use "sqlalchemy" (typeName s.type), .plain (typeArguments s.type ++ ", "), .use "sqlalchemy" "ForeignKey",
    .plain ("(" ++ target s.entity s.referencedColumn ++ ", ondelete=\"CASCADE\"), primary_key=True),\n")]

def tableFragments (j : Junction) : List Fragment :=
  .plain (identifier j.name ++ " = ") :: .use "sqlalchemy" "Table" ::
    .plain ("(\n    \"" ++ j.name ++ "\",\n    Base.metadata,\n") ::
      sideFragments j.source ++ sideFragments j.target ++ [.plain ")\n"]

def Module.fragments (m : Module) : List Fragment :=
  .plain "Base = " :: .use "sqlalchemy.orm" "declarative_base" :: .plain "()\n" ::
    (m.tables.map tableFragments ++ m.classes.map (·.fragments)).flatMap (.plain "\n\n" :: ·)

def fragments (r : Resolution) : List Fragment := (moduleOf r).fragments

lemma assembled_arguments (c : MappedColumn) : c.argumentFragments.map assembled = c.arguments := by
  simp only [MappedColumn.argumentFragments, MappedColumn.arguments, List.cons_append, List.map_cons, List.map_append]
  refine congrArg₂ (· :: ·) ?_ (congrArg₂ (· ++ ·) (congrArg₂ (· ++ ·) (congrArg₂ (· ++ ·) ?_ ?_) ?_) ?_)
  · simp [Fragment.text, typeExpression]
  · cases c.key <;> simp [Fragment.text, ← String.append_assoc]
  · cases c.column.primary with
    | false => rfl
    | true => cases c.column.type <;> simp [Fragment.text]
  · cases c.column.unique <;> simp [Fragment.text]
  · cases c.key <;> simp [Fragment.text]

lemma assembled_column (c : MappedColumn) : assembled c.fragments = c.render := by
  have hcall : " = Column(" = " = " ++ ("Column" ++ "(") := rfl
  simp [MappedColumn.fragments, MappedColumn.render, hcall, assembled_intercalate, assembled_arguments, Fragment.text,
    String.append_assoc, -String.reduceAppend]

lemma assembled_relationship (e : End) : assembled (relationshipFragments e) = relationshipLine e := by
  have hcall : " = relationship(" = " = " ++ ("relationship" ++ "(") := rfl
  simp [relationshipFragments, relationshipLine, hcall, Fragment.text, String.append_assoc, -String.reduceAppend]

lemma assembled_class (c : MappedClass) : assembled c.fragments = c.render := by
  delta MappedClass.render
  simp [MappedClass.fragments, assembled_flatMap, assembled_column, assembled_relationship, Fragment.text,
    String.append_assoc]

lemma assembled_side (s : JunctionSide) : assembled (sideFragments s) = sideLine s := by
  have hcolumn : "    Column(\"" = "    " ++ ("Column" ++ "(\"") := rfl
  have hkey : ", ForeignKey(" = ", " ++ ("ForeignKey" ++ "(") := rfl
  delta sideLine
  simp [sideFragments, typeExpression, hcolumn, hkey, Fragment.text, String.append_assoc, -String.reduceAppend]

lemma assembled_table (j : Junction) : assembled (tableFragments j) = associationTable j := by
  have hcall : " = Table(\n    \"" = " = " ++ ("Table" ++ "(\n    \"") := rfl
  simp [tableFragments, associationTable, assembled_side, hcall, Fragment.text, String.append_assoc,
    -String.reduceAppend]

lemma code_eq (r : Resolution) : code r =
    (if (moduleOf r).usesUuid then "import uuid\n\n" else "") ++
      "from sqlalchemy import " ++ ", ".intercalate (moduleOf r).imports ++ "\n" ++
      "from sqlalchemy.orm import declarative_base" ++
      (if (moduleOf r).usesRelationships then ", relationship" else "") ++ "\n\n" ++ assembled (fragments r) := by
  have hbase : "Base = declarative_base()\n" = "Base = " ++ ("declarative_base" ++ "()\n") := rfl
  simp [code, Module.render, fragments, Module.fragments, hbase, assembled_flatMap, assembled_class, assembled_table,
    Fragment.text, Function.comp_def, String.append_assoc, -String.reduceAppend]

end SqlAlchemy

namespace Mongoose

def keyOptionFragments (c : Column) (isReference : Bool) : List (List Fragment) :=
  if c.primary then
    let origin : List (List Fragment) :=
      if c.type == .uuid then [[.plain "default: () => ", .use "crypto" "randomUUID", .plain "()"]]
      else if isReference then [] else [[.plain "required: true"]]
    origin ++ [[.plain "unique: true"], [.plain "immutable: true"]]
  else if c.unique then [[.plain "unique: true"]] else []

def Field.fragments : Field → List Fragment
  | .column c key =>
    let type := match key with
      | some k => ["type: Schema.Types.ObjectId", "ref: '" ++ k.referenced.name ++ "'", "required: true"]
      | none => ["type: " ++ typeName c.type]
    .plain ("  " ++ c.name ++ ": \x7b ") ::
      [.plain ", "].intercalate (type.map (fun t => [.plain t]) ++ keyOptionFragments c key.isSome) ++
        [.plain " \x7d"]
  | .references name related =>
    [.plain ("  " ++ name ++ ": [\x7b type: Schema.Types.ObjectId, ref: '" ++ related ++ "' \x7d]")]

def Model.fragments (m : Model) : List Fragment :=
  let fields := m.fields.map Field.fragments
  let lines := if fields.isEmpty then [] else [.plain ",\n"].intercalate fields ++ [.plain "\n"]
  let options := if m.virtuals.isEmpty then ""
    else ", \x7b\n  toJSON: \x7b virtuals: true \x7d,\n  toObject: \x7b virtuals: true \x7d\n\x7d"
  .plain ("const " ++ m.schema ++ " = new Schema(\x7b\n") :: lines ++
    [.plain ("\x7d" ++ options ++ ");\n\n" ++ String.join (m.virtuals.map (·.render m.schema)) ++
      "const " ++ m.name ++ " = mongoose.model('" ++ m.name ++ "', " ++ m.schema ++ ");\n\n")]

def fragments (r : Resolution) : List Fragment :=
  (models r).flatMap (·.fragments) ++
    [.plain ("module.exports = \x7b " ++ ", ".intercalate ((models r).map (·.name)) ++ " \x7d;\n")]

lemma assembled_keyOptions (c : Column) (isReference : Bool) :
    (keyOptionFragments c isReference).map assembled = keyOptions c isReference := by
  rw [keyOptionFragments, keyOptions]
  cases c.primary <;> cases c.unique <;> cases isReference <;> cases c.type == .uuid <;> simp [Fragment.text]

lemma assembled_field (f : Field) : assembled f.fragments = f.render := by
  cases f with
  | references name related => simp [Field.fragments, Field.render, Fragment.text]
  | column c key =>
    have hplain : ∀ ts : List String, (ts.map fun t => [Fragment.plain t]).map assembled = ts := by
      intro ts
      simp [Function.comp_def, Fragment.text]
    cases key <;>
      simp only [Field.fragments, Field.render, assembled_cons, assembled_append, assembled_nil, assembled_intercalate,
        List.map_append, hplain, assembled_keyOptions, Fragment.text, String.append_assoc, String.append_empty]

lemma assembled_model (m : Model) : assembled m.fragments = m.render := by
  delta Model.render
  cases hfields : m.fields.isEmpty <;>
    simp [Model.fragments, hfields, assembled_intercalate, assembled_field, Fragment.text, Function.comp_def,
      String.append_assoc, -String.reduceAppend]

lemma code_eq (r : Resolution) : code r =
    "const mongoose = require('mongoose');\n" ++
      (if usesUuid (models r) then "const \x7b randomUUID \x7d = require('crypto');\n" else "") ++
      "\nconst \x7b Schema \x7d = mongoose;\n\n" ++ assembled (fragments r) := by
  delta code
  simp only [fragments, assembled_flatMap, assembled_model, assembled_append, assembled_cons, assembled_nil,
    Fragment.text, String.append_assoc, String.append_empty]

end Mongoose

end SchemaCode
