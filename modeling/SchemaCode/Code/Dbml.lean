import SchemaCode.Relation.Resolution

namespace SchemaCode.Dbml

def typeName : ColumnType → String
  | .uuid => "uuid"
  | .text => "text"
  | .integer => "integer"
  | .decimal => "decimal(10,2)"
  | .boolean => "boolean"
  | .timestamp => "timestamp"
  | .date => "date"
  | .json => "json"
  | .varchar | .other _ => "varchar(255)"

structure TableColumn where
  column : Column
  notNull : Bool

structure TableBlock where
  entity : Entity
  columns : List TableColumn

structure Endpoint where
  entity : Entity
  column : String

inductive Operator where
  | oneToMany
  | manyToOne
  | oneToOne
  | manyToMany
  deriving DecidableEq

structure Ref where
  left : Endpoint
  operator : Operator
  right : Endpoint

def block (r : Resolution) (e : Entity) : TableBlock where
  entity := e
  columns := (r.columnsOf e).map (⟨·, false⟩) ++ (r.addedColumnsOf e.index).map (⟨·, true⟩)

def blocks (r : Resolution) : List TableBlock := r.entities.map (block r)

/-- The reference of a link. It names the owner of a foreign key first, unless the link goes from
one to many; through a junction it goes from source to target. -/
def refOf (l : Link) : Ref :=
  match l.storage with
  | .junction j forward =>
    let (near, far) := if forward then (j.source, j.target) else (j.target, j.source)
    ⟨⟨l.source, near.referencedColumn⟩, .manyToMany, ⟨l.target, far.referencedColumn⟩⟩
  | .column k _ =>
    let owner : Endpoint := ⟨k.owner, k.column⟩
    let referenced : Endpoint := ⟨k.referenced, k.referencedColumn⟩
    match l.kind with
    | .oneToMany => ⟨referenced, .oneToMany, owner⟩
    | .oneToOne => ⟨owner, .oneToOne, referenced⟩
    | _ => ⟨owner, .manyToOne, referenced⟩

def Operator.mark : Operator → String
  | .oneToMany => "<"
  | .manyToOne => ">"
  | .oneToOne => "-"
  | .manyToMany => "<>"

def Endpoint.render (e : Endpoint) : String := e.entity.lowerName ++ "." ++ e.column

def Ref.render (r : Ref) : String :=
  "Ref: " ++ r.left.render ++ " " ++ r.operator.mark ++ " " ++ r.right.render ++ "\n"

def refLines (r : Resolution) : List String := (r.links.map fun l => (refOf l).render).eraseDups

def TableColumn.settings (c : TableColumn) : List String :=
  let identity := if c.column.primary then
      match c.column.type with
      | .uuid => ["pk", "default: `gen_random_uuid()`"]
      | .integer => ["pk", "increment"]
      | _ => ["pk"]
    else []
  let unique := if c.column.unique then ["unique"] else []
  let notNull := if c.notNull then ["not null"] else []
  identity ++ unique ++ notNull

def TableColumn.render (c : TableColumn) : String :=
  let settings := if c.settings.isEmpty then "" else " [" ++ ", ".intercalate c.settings ++ "]"
  "  " ++ c.column.name ++ " " ++ typeName c.column.type ++ settings ++ "\n"

def TableBlock.render (b : TableBlock) : String :=
  "Table " ++ b.entity.lowerName ++ " \x7b\n" ++ String.join (b.columns.map (·.render)) ++ "\x7d\n\n"

def code (r : Resolution) : String :=
  String.join ((blocks r).map (·.render)) ++ String.join (refLines r)

end SchemaCode.Dbml
