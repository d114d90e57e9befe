import SchemaCode.Text.Lower

namespace SchemaCode

inductive ColumnType where
  | uuid
  | varchar
  | text
  | integer
  | decimal
  | boolean
  | timestamp
  | date
  | json
  | other (spelling : String)
  deriving DecidableEq

namespace ColumnType

def ofString (s : String) : ColumnType :=
  match Text.lower s with
  | "uuid" => .uuid
  | "varchar" => .varchar
  | "text" => .text
  | "integer" => .integer
  | "decimal" => .decimal
  | "boolean" => .boolean
  | "timestamp" => .timestamp
  | "date" => .date
  | "json" => .json
  | _ => .other s

def spelling : ColumnType → String
  | .uuid => "uuid"
  | .varchar => "varchar"
  | .text => "text"
  | .integer => "integer"
  | .decimal => "decimal"
  | .boolean => "boolean"
  | .timestamp => "timestamp"
  | .date => "date"
  | .json => "json"
  | .other s => s

end ColumnType

structure Column where
  name : String
  type : ColumnType := .varchar
  primary : Bool := false
  unique : Bool := false
  foreign : Bool := false
  deriving DecidableEq

/-- A box of the diagram. A table whose column list is missing is still being drawn; it takes no part
in generated code. -/
structure Table where
  id : String
  name : String
  x : Float := 0
  y : Float := 0
  columns : Option (List Column)

namespace Table

def lowerName (t : Table) : String := Text.lower t.name

def column? (t : Table) (name : String) : Option Column :=
  t.columns.bind (·.find? (·.name == name))

end Table

inductive RelationKind where
  | oneToOne
  | oneToMany
  | manyToOne
  | manyToMany
  deriving DecidableEq

namespace RelationKind

def ofString? : String → Option RelationKind
  | "one-to-one" => some .oneToOne
  | "one-to-many" => some .oneToMany
  | "many-to-one" => some .manyToOne
  | "many-to-many" => some .manyToMany
  | _ => none

def spelling : RelationKind → String
  | .oneToOne => "one-to-one"
  | .oneToMany => "one-to-many"
  | .manyToOne => "many-to-one"
  | .manyToMany => "many-to-many"

def ofString (s : String) : RelationKind := (ofString? s).getD .oneToMany

theorem ofString?_spelling (k : RelationKind) : ofString? k.spelling = some k := by
  cases k <;> rfl

theorem ofString_spelling (k : RelationKind) : ofString k.spelling = k := by
  simp [ofString, ofString?_spelling]

end RelationKind

structure Relationship where
  id : String := ""
  source : String
  target : String
  sourceKey : String := ""
  targetKey : String := ""
  declared : Option RelationKind := none
  through : Option String := none
  deriving DecidableEq

namespace Relationship

def kind (r : Relationship) : RelationKind := r.declared.getD .oneToMany

end Relationship

structure Schema where
  name : Option String := none
  tables : List Table := []
  relationships : List Relationship := []

end SchemaCode
