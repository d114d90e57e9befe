import SchemaCode.Relation.Resolution

namespace SchemaCode.Sequelize

def typeName : ColumnType → String
  | .uuid => "DataTypes.UUID"
  | .text => "DataTypes.TEXT"
  | .integer => "DataTypes.INTEGER"
  | .decimal => "DataTypes.DECIMAL(10, 2)"
  | .boolean => "DataTypes.BOOLEAN"
  | .timestamp => "DataTypes.DATE"
  | .date => "DataTypes.DATEONLY"
  | .json => "DataTypes.JSON"
  | .varchar | .other _ => "DataTypes.STRING"

structure Attribute where
  column : Column
  key : Option ForeignKey

structure Model where
  entity : Entity
  attributes : List Attribute

inductive Call where
  | hasOne (foreignKey sourceKey : String)
  | hasMany (foreignKey sourceKey : String)
  | belongsTo (foreignKey targetKey : String)
  | belongsToMany (through foreignKey otherKey : String)
  deriving DecidableEq

structure Association where
  model : Entity
  related : Entity
  call : Call
  name : String

def attributes (r : Resolution) (e : Entity) : List Attribute :=
  (r.columnsOf e).map (fun c => ⟨c, r.foreignKeyOn? e.index c.name⟩) ++
    (r.addedKeysOf e.index).map fun k => ⟨k.toColumn, some k⟩

def models (r : Resolution) : List Model := r.entities.map fun e => ⟨e, attributes r e⟩

def associationsOf (l : Link) : List Association :=
  match l.storage with
  | .junction j forward =>
    let (near, far) := if forward then (j.source, j.target) else (j.target, j.source)
    [⟨l.source, l.target, .belongsToMany j.name near.column far.column, l.sourceField⟩,
      ⟨l.target, l.source, .belongsToMany j.name far.column near.column, l.targetField⟩]
  | .column k atSource =>
    let (owner, ownerField, inverse, inverseField) :=
      if atSource then (l.source, l.sourceField, l.target, l.targetField)
      else (l.target, l.targetField, l.source, l.sourceField)
    let has := match l.kind.inverseCardinality with
      | .many => Call.hasMany k.column k.referencedColumn
      | .one => Call.hasOne k.column k.referencedColumn
    [⟨inverse, owner, has, inverseField⟩,
      ⟨owner, inverse, .belongsTo k.column k.referencedColumn, ownerField⟩]

def associations (r : Resolution) : List Association := r.links.flatMap associationsOf

def Attribute.options (a : Attribute) : List String :=
  let identity := if a.column.primary then
      match a.column.type with
      | .uuid => ["defaultValue: DataTypes.UUIDV4", "primaryKey: true"]
      | .integer => ["autoIncrement: true", "primaryKey: true"]
      | _ => ["primaryKey: true"]
    else []
  let unique := if a.column.unique then ["unique: true"] else []
  let reference := match a.key with
    | some k =>
      ["allowNull: false",
        "references: \x7b model: '" ++ k.referenced.lowerName ++ "', key: '" ++ k.referencedColumn ++ "' \x7d"]
    | none => []
  ("type: " ++ typeName a.column.type) :: identity ++ unique ++ reference

def Attribute.render (a : Attribute) : String :=
  "  " ++ a.column.name ++ ": \x7b\n    " ++ ",\n    ".intercalate a.options ++ "\n  \x7d"

def Model.render (m : Model) : String :=
  let attributes := if m.attributes.isEmpty then ""
    else ",\n".intercalate (m.attributes.map (·.render)) ++ "\n"
  let name := m.entity.name
  "const " ++ name ++ " = sequelize.define('" ++ name ++ "', \x7b\n" ++ attributes ++
    "\x7d, \x7b\n  tableName: '" ++ m.entity.lowerName ++ "'\n\x7d);\n\n"

def Call.method : Call → String
  | .hasOne .. => "hasOne"
  | .hasMany .. => "hasMany"
  | .belongsTo .. => "belongsTo"
  | .belongsToMany .. => "belongsToMany"

def Call.options : Call → List (String × String)
  | .hasOne foreignKey sourceKey => [("foreignKey", foreignKey), ("sourceKey", sourceKey)]
  | .hasMany foreignKey sourceKey => [("foreignKey", foreignKey), ("sourceKey", sourceKey)]
  | .belongsTo foreignKey targetKey => [("foreignKey", foreignKey), ("targetKey", targetKey)]
  | .belongsToMany through foreignKey otherKey =>
    [("through", through), ("foreignKey", foreignKey), ("otherKey", otherKey)]

def Association.render (a : Association) : String :=
  let options := (a.call.options ++ [("as", a.name)]).map fun (key, value) => key ++ ": '" ++ value ++ "'"
  a.model.name ++ "." ++ a.call.method ++ "(" ++ a.related.name ++ ", \x7b " ++ ", ".intercalate options ++
    " \x7d);\n"

def preamble : String :=
  "const \x7b Sequelize, DataTypes \x7d = require('sequelize');\n" ++
  "\n" ++
  "const sequelize = new Sequelize('database', 'username', 'password', \x7b\n" ++
  "  host: 'localhost',\n" ++
  "  dialect: 'postgres'\n" ++
  "\x7d);\n" ++
  "\n"

def code (r : Resolution) : String :=
  let associations := associations r
  let calls := if associations.isEmpty then ""
    else "// Associations\n" ++ String.join (associations.map (·.render)) ++ "\n"
  preamble ++ String.join ((models r).map (·.render)) ++ calls ++
    "module.exports = \x7b sequelize, " ++ ", ".intercalate (r.entities.map (·.name)) ++ " \x7d;\n"

end SchemaCode.Sequelize
