import SchemaCode.Schema.Basic

namespace SchemaCode

/-- A table with a column list, and its position among all tables of the schema. -/
structure Entity where
  index : Nat
  id : String
  name : String
  columns : List Column

namespace Entity

def lowerName (e : Entity) : String := Text.lower e.name

def column? (e : Entity) (name : String) : Option Column := e.columns.find? (·.name == name)

def hasColumn (e : Entity) (name : String) : Bool := (e.column? name).isSome

def typeOf (e : Entity) (name : String) : ColumnType :=
  match e.column? name with
  | some c => c.type
  | none => .varchar

end Entity

def Table.entity? (t : Table) (index : Nat) : Option Entity :=
  t.columns.map fun columns => ⟨index, t.id, t.name, columns⟩

namespace Schema

def entities (s : Schema) : List Entity :=
  s.tables.zipIdx.filterMap fun (t, i) => t.entity? i

end Schema

end SchemaCode
