import SchemaCode.Relation.Resolution

namespace SchemaCode.TypeScript

def typeName : ColumnType → String
  | .integer | .decimal => "number"
  | .boolean => "boolean"
  | .timestamp | .date => "Date"
  | .json => "Record<string, unknown>"
  | .uuid | .varchar | .text | .other _ => "string"

def relatedType (e : End) : String :=
  match e.cardinality with
  | .many => e.related.name ++ "[]"
  | .one => e.related.name

structure Interface where
  name : String
  columns : List Column
  ends : List End

def interfaces (r : Resolution) : List Interface :=
  r.entities.map fun e => ⟨e.name, r.columnsOf e, r.endsOf e.index⟩

def Interface.render (i : Interface) : String :=
  let columns := i.columns.map fun c => "  " ++ c.name ++ ": " ++ typeName c.type ++ ";\n"
  let ends := i.ends.map fun e => "  " ++ e.field ++ "?: " ++ relatedType e ++ ";\n"
  let gap := if i.ends.isEmpty then "" else "\n"
  "export interface " ++ i.name ++ " \x7b\n" ++ String.join columns ++ gap ++ String.join ends ++ "\x7d\n\n"

def code (r : Resolution) : String := String.join ((interfaces r).map (·.render))

end SchemaCode.TypeScript
