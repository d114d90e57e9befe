import SchemaCode.Code.TypeScript

namespace SchemaCode.TypeOrm

def columnOptions : ColumnType → String
  | .uuid => "type: \"uuid\""
  | .text => "type: \"text\""
  | .integer => "type: \"int\""
  | .decimal => "type: \"decimal\", precision: 10, scale: 2"
  | .boolean => "type: \"boolean\""
  | .timestamp => "type: \"timestamp\""
  | .date => "type: \"date\""
  | .json => "type: \"jsonb\""
  | .varchar | .other _ => "type: \"varchar\", length: 255"

inductive RelationDecorator where
  | oneToOne
  | oneToMany
  | manyToOne
  | manyToMany
  deriving DecidableEq

def RelationDecorator.name : RelationDecorator → String
  | .oneToOne => "OneToOne"
  | .oneToMany => "OneToMany"
  | .manyToOne => "ManyToOne"
  | .manyToMany => "ManyToMany"

inductive Decorator where
  | entity (table : String)
  | column (type : ColumnType) (unique : Bool)
  | primaryColumn (type : ColumnType) (unique : Bool)
  | primaryGeneratedColumn (uuid : Bool)
  | uniqueIndex
  | relation (kind : RelationDecorator) (related inverseField : String)
  | joinColumn (key : ForeignKey)
  | joinTable (junction : Junction)

structure Member where
  decorators : List Decorator
  name : String
  type : String

structure EntityClass where
  table : String
  name : String
  columns : List Member
  relations : List Member

/-- Generated keys cannot be unique by an option, so they get an index. -/
def columnDecorators (c : Column) : List Decorator :=
  if !c.primary then [.column c.type c.unique]
  else
    let index := if c.unique then [Decorator.uniqueIndex] else []
    match c.type with
    | .uuid => .primaryGeneratedColumn true :: index
    | .integer => .primaryGeneratedColumn false :: index
    | t => [.primaryColumn t c.unique]

def columnMember (c : Column) : Member := ⟨columnDecorators c, c.name, TypeScript.typeName c.type⟩

def relationDecorator (kind : RelationKind) (cardinality : Cardinality) : RelationDecorator :=
  match kind, cardinality with
  | .manyToMany, _ => .manyToMany
  | .oneToOne, _ => .oneToOne
  | _, .many => .oneToMany
  | _, .one => .manyToOne

def storageDecorators : Role → List Decorator
  | .owner k => [.joinColumn k]
  | .junction j true => [.joinTable j]
  | _ => []

def relationMember (e : End) : Member where
  decorators :=
    .relation (relationDecorator e.kind e.cardinality) e.related.name e.inverseField ::
      storageDecorators e.role
  name := e.field
  type := TypeScript.relatedType e

def entityClass (r : Resolution) (e : Entity) : EntityClass where
  table := e.lowerName
  name := e.name
  columns := (r.columnsOf e).map columnMember
  relations := (r.addedColumnsOf e.index).map columnMember ++ (r.endsOf e.index).map relationMember

def classes (r : Resolution) : List EntityClass := r.entities.map (entityClass r)

def Decorator.name : Decorator → String
  | .entity _ => "Entity"
  | .column .. => "Column"
  | .primaryColumn .. => "PrimaryColumn"
  | .primaryGeneratedColumn _ => "PrimaryGeneratedColumn"
  | .uniqueIndex => "Index"
  | .relation kind _ _ => kind.name
  | .joinColumn _ => "JoinColumn"
  | .joinTable _ => "JoinTable"

def importable : List String :=
  ["Column", "Entity", "Index", "JoinColumn", "JoinTable", "ManyToMany", "ManyToOne", "OneToMany",
    "OneToOne", "PrimaryColumn", "PrimaryGeneratedColumn"]

def EntityClass.decorators (c : EntityClass) : List Decorator :=
  .entity c.table :: (c.columns ++ c.relations).flatMap (·.decorators)

def imports (classes : List EntityClass) : List String :=
  let used := "Entity" :: classes.flatMap fun c => c.decorators.map (·.name)
  importable.filter used.contains

def options (type : ColumnType) (unique : Bool) : String :=
  "\x7b " ++ columnOptions type ++ (if unique then ", unique: true" else "") ++ " \x7d"

def columnReference (column referenced : String) : String :=
  "\x7b name: \"" ++ column ++ "\", referencedColumnName: \"" ++ referenced ++ "\" \x7d"

def Decorator.arguments : Decorator → String
  | .entity table => "\"" ++ table ++ "\""
  | .column type unique => options type unique
  | .primaryColumn type unique => options type unique
  | .primaryGeneratedColumn uuid => if uuid then "\"uuid\"" else ""
  | .uniqueIndex => "\x7b unique: true \x7d"
  | .relation _ related inverseField =>
    let param := Text.lowerFirst related
    "() => " ++ related ++ ", (" ++ param ++ ") => " ++ param ++ "." ++ inverseField
  | .joinColumn k => columnReference k.column k.referencedColumn
  | .joinTable j =>
    "\x7b name: \"" ++ j.name ++ "\", joinColumn: " ++
      columnReference j.source.column j.source.referencedColumn ++ ", inverseJoinColumn: " ++
      columnReference j.target.column j.target.referencedColumn ++ " \x7d"

def Decorator.render (d : Decorator) : String := "@" ++ d.name ++ "(" ++ d.arguments ++ ")"

def Member.render (m : Member) : String :=
  "\n".intercalate ((m.decorators.map (·.render) ++ [m.name ++ ": " ++ m.type ++ ";"]).map ("  " ++ ·))

def EntityClass.members (c : EntityClass) : List String :=
  let relations := match c.relations.map (·.render) with
    | [] => []
    | first :: rest => ("  // Relationships\n" ++ first) :: rest
  c.columns.map (·.render) ++ relations

def EntityClass.render (c : EntityClass) : String :=
  let members := if c.members.isEmpty then "" else "\n\n".intercalate c.members ++ "\n"
  (Decorator.entity c.table).render ++ "\nexport class " ++ c.name ++ " \x7b\n" ++ members ++ "\x7d\n\n"

def code (r : Resolution) : String :=
  let classes := classes r
  "import \x7b " ++ ", ".intercalate (imports classes) ++ " \x7d from \"typeorm\";\n\n" ++
    String.join (classes.map (·.render))

end SchemaCode.TypeOrm
