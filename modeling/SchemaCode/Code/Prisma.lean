import SchemaCode.Relation.Resolution

namespace SchemaCode.Prisma

def typeName : ColumnType → String
  | .integer => "Int"
  | .decimal => "Decimal"
  | .boolean => "Boolean"
  | .timestamp | .date => "DateTime"
  | .json => "Json"
  | .uuid | .varchar | .text | .other _ => "String"

def nativeType? : ColumnType → Option String
  | .uuid => some "@db.Uuid"
  | .text => some "@db.Text"
  | .date => some "@db.Date"
  | _ => none

inductive Shape where
  | required
  | optional
  | list
  deriving DecidableEq

def Shape.mark : Shape → String
  | .required => ""
  | .optional => "?"
  | .list => "[]"

structure RelationField where
  name : String
  related : String
  shape : Shape
  relation : String
  key : Option (String × String)

inductive Line where
  | column (column : Column)
  | relation (field : RelationField)

structure Model where
  name : String
  columns : List Column
  relations : List Line

def relationField (e : End) : RelationField where
  name := e.field
  related := e.related.name
  shape := match e.role, e.cardinality with
    | .owner _, _ => .required
    | _, .many => .list
    | _, .one => .optional
  relation := e.relation
  key := match e.role with
    | .owner k => some (k.column, k.referencedColumn)
    | _ => none

def endLines (e : End) : List Line :=
  let added := match e.role with
    | .owner k => if k.synthesized then [.column k.toColumn] else []
    | _ => []
  .relation (relationField e) :: added

def model (r : Resolution) (e : Entity) : Model where
  name := e.name
  columns := r.columnsOf e
  relations := (r.endsOf e.index).flatMap endLines

def models (r : Resolution) : List Model := r.entities.map (model r)

def columnAttributes (c : Column) : List String :=
  let identity := if c.primary then
      match c.type with
      | .uuid => ["@id @default(uuid())"]
      | .integer => ["@id @default(autoincrement())"]
      | _ => ["@id"]
    else []
  let unique := if c.unique then ["@unique"] else []
  identity ++ unique ++ (nativeType? c.type).toList

def renderColumn (c : Column) : String :=
  "  " ++ " ".intercalate ([c.name, typeName c.type] ++ columnAttributes c) ++ "\n"

def RelationField.render (f : RelationField) : String :=
  let key := match f.key with
    | some (column, referenced) => ", fields: [" ++ column ++ "], references: [" ++ referenced ++ "]"
    | none => ""
  "  " ++ f.name ++ " " ++ f.related ++ f.shape.mark ++ " @relation(\"" ++ f.relation ++ "\"" ++ key ++ ")\n"

def Line.render : Line → String
  | .column c => renderColumn c
  | .relation f => f.render

def Model.render (m : Model) : String :=
  let relations := if m.relations.isEmpty then ""
    else "\n  // Relationships\n" ++ String.join (m.relations.map (·.render))
  "model " ++ m.name ++ " \x7b\n" ++ String.join (m.columns.map renderColumn) ++ relations ++ "\x7d\n\n"

def preamble : String :=
  "generator client \x7b\n" ++
  "  provider = \"prisma-client-js\"\n" ++
  "\x7d\n" ++
  "\n" ++
  "datasource db \x7b\n" ++
  "  provider = \"postgresql\"\n" ++
  "  url      = env(\"DATABASE_URL\")\n" ++
  "\x7d\n" ++
  "\n"

def code (r : Resolution) : String := String.join ((models r).map (·.render))

end SchemaCode.Prisma
