import SchemaCode.Relation.Resolution

/-! A link is stored once, in a reference or in an array of references; the other end is a virtual field. -/

namespace SchemaCode.Mongoose

def typeName : ColumnType → String
  | .integer => "Number"
  | .decimal => "Schema.Types.Decimal128"
  | .boolean => "Boolean"
  | .timestamp | .date => "Date"
  | .json => "Schema.Types.Mixed"
  | .uuid | .varchar | .text | .other _ => "String"

inductive Field where
  | column (column : Column) (key : Option ForeignKey)
  | references (name related : String)

structure Virtual where
  name : String
  related : String
  foreignField : String
  justOne : Bool

structure Model where
  name : String
  fields : List Field
  virtuals : List Virtual

def Field.name : Field → String
  | .column c _ => c.name
  | .references name _ => name

def columnFields (r : Resolution) (e : Entity) : List Field :=
  (r.columnsOf e).map (fun c => .column c (r.foreignKeyOn? e.index c.name)) ++
    (r.addedKeysOf e.index).map fun k => .column k.toColumn (some k)

def arrayField? (e : End) : Option Field :=
  match e.role with
  | .junction _ true => some (.references e.field e.related.name)
  | _ => none

def virtual? (e : End) : Option Virtual :=
  let found (foreignField : String) := some ⟨e.field, e.related.name, foreignField, e.cardinality == .one⟩
  match e.role with
  | .owner _ => none
  | .inverse k => found k.column
  | .junction _ true => none
  | .junction _ false => found e.inverseField

def model (r : Resolution) (e : Entity) : Model where
  name := e.name
  fields := columnFields r e ++ (r.endsOf e.index).filterMap arrayField?
  virtuals := (r.endsOf e.index).filterMap virtual?

def models (r : Resolution) : List Model := r.entities.map (model r)

def Field.makesUuid : Field → Bool
  | .column c _ => c.primary && c.type == .uuid
  | .references .. => false

def keyOptions (c : Column) (isReference : Bool) : List String :=
  if c.primary then
    let origin := if c.type == .uuid then ["default: () => randomUUID()"]
      else if isReference then [] else ["required: true"]
    origin ++ ["unique: true", "immutable: true"]
  else if c.unique then ["unique: true"] else []

def Field.render : Field → String
  | .column c key =>
    let type := match key with
      | some k => ["type: Schema.Types.ObjectId", "ref: '" ++ k.referenced.name ++ "'", "required: true"]
      | none => ["type: " ++ typeName c.type]
    "  " ++ c.name ++ ": \x7b " ++ ", ".intercalate (type ++ keyOptions c key.isSome) ++ " \x7d"
  | .references name related =>
    "  " ++ name ++ ": [\x7b type: Schema.Types.ObjectId, ref: '" ++ related ++ "' \x7d]"

def Virtual.render (v : Virtual) (schema : String) : String :=
  let options := ["ref: '" ++ v.related ++ "'", "localField: '_id'", "foreignField: '" ++ v.foreignField ++ "'"] ++
    (if v.justOne then ["justOne: true"] else [])
  schema ++ ".virtual('" ++ v.name ++ "', \x7b\n  " ++ ",\n  ".intercalate options ++ "\n\x7d);\n\n"

def Model.schema (m : Model) : String := Text.lowerFirst m.name ++ "Schema"

def Model.render (m : Model) : String :=
  let fields := if m.fields.isEmpty then "" else ",\n".intercalate (m.fields.map (·.render)) ++ "\n"
  let options := if m.virtuals.isEmpty then ""
    else ", \x7b\n  toJSON: \x7b virtuals: true \x7d,\n  toObject: \x7b virtuals: true \x7d\n\x7d"
  "const " ++ m.schema ++ " = new Schema(\x7b\n" ++ fields ++ "\x7d" ++ options ++ ");\n\n" ++
    String.join (m.virtuals.map (·.render m.schema)) ++
    "const " ++ m.name ++ " = mongoose.model('" ++ m.name ++ "', " ++ m.schema ++ ");\n\n"

def usesUuid (models : List Model) : Bool := models.any fun m => m.fields.any (·.makesUuid)

def code (r : Resolution) : String :=
  let models := models r
  let uuid := if usesUuid models then "const \x7b randomUUID \x7d = require('crypto');\n" else ""
  "const mongoose = require('mongoose');\n" ++ uuid ++ "\nconst \x7b Schema \x7d = mongoose;\n\n" ++
    String.join (models.map (·.render)) ++
    "module.exports = \x7b " ++ ", ".intercalate (models.map (·.name)) ++ " \x7d;\n"

end SchemaCode.Mongoose
