import SchemaCode.Relation.Resolution

namespace SchemaCode.SqlAlchemy

def typeName : ColumnType → String
  | .uuid => "Uuid"
  | .text => "Text"
  | .integer => "Integer"
  | .decimal => "Numeric"
  | .boolean => "Boolean"
  | .timestamp => "DateTime"
  | .date => "Date"
  | .json => "JSON"
  | .varchar | .other _ => "String"

def typeArguments : ColumnType → String
  | .decimal => "(10, 2)"
  | .varchar | .other _ => "(255)"
  | _ => ""

def typeExpression (t : ColumnType) : String := typeName t ++ typeArguments t

structure MappedColumn where
  column : Column
  key : Option ForeignKey

structure MappedClass where
  entity : Entity
  columns : List MappedColumn
  relationships : List End

structure Module where
  tables : List Junction
  classes : List MappedClass

def columns (r : Resolution) (e : Entity) : List MappedColumn :=
  (r.columnsOf e).map (fun c => ⟨c, r.foreignKeyOn? e.index c.name⟩) ++
    (r.addedKeysOf e.index).map fun k => ⟨k.toColumn, some k⟩

def mappedClass (r : Resolution) (e : Entity) : MappedClass := ⟨e, columns r e, r.endsOf e.index⟩

def moduleOf (r : Resolution) : Module where
  tables := r.junctions
  classes := r.entities.map (mappedClass r)

/-- Junction names are free text; a variable has ASCII letters, digits and underscores only, and no
digit at its start. -/
def identifier (name : String) : String :=
  let chars := name.toList.map fun c => if c.isAlphanum then c else '_'
  match chars with
  | [] => "_"
  | c :: _ => if c.isDigit then String.ofList ('_' :: chars) else String.ofList chars

def MappedColumn.makesUuid (c : MappedColumn) : Bool := c.column.primary && c.column.type == .uuid

def MappedColumn.names (c : MappedColumn) : List String :=
  typeName c.column.type :: (if c.key.isSome then ["ForeignKey"] else [])

def tableNames (j : Junction) : List String :=
  ["Table", "ForeignKey", typeName j.source.type, typeName j.target.type]

def importable : List String :=
  ["Boolean", "Column", "Date", "DateTime", "ForeignKey", "Integer", "JSON", "Numeric", "String", "Table",
    "Text", "Uuid"]

def Module.imports (m : Module) : List String :=
  let used := "Column" :: m.tables.flatMap tableNames ++
    m.classes.flatMap fun c => c.columns.flatMap (·.names)
  importable.filter used.contains

def Module.usesUuid (m : Module) : Bool := m.classes.any fun c => c.columns.any (·.makesUuid)

def Module.usesRelationships (m : Module) : Bool := m.classes.any fun c => !c.relationships.isEmpty

def target (e : Entity) (column : String) : String := "\"" ++ e.lowerName ++ "." ++ column ++ "\""

def MappedColumn.arguments (c : MappedColumn) : List String :=
  let reference := match c.key with
    | some k => ["ForeignKey(" ++ target k.referenced k.referencedColumn ++ ")"]
    | none => []
  let identity := if c.column.primary then
      match c.column.type with
      | .uuid => ["primary_key=True", "default=uuid.uuid4"]
      | .integer => ["primary_key=True", "autoincrement=True"]
      | _ => ["primary_key=True"]
    else []
  let unique := if c.column.unique then ["unique=True"] else []
  let notNull := if c.key.isSome then ["nullable=False"] else []
  typeExpression c.column.type :: reference ++ identity ++ unique ++ notNull

def MappedColumn.render (c : MappedColumn) : String :=
  "    " ++ c.column.name ++ " = Column(" ++ ", ".intercalate c.arguments ++ ")\n"

def joinConditions (related : Entity) (j : Junction) (atSource : Bool) : List String :=
  let (near, far) := if atSource then (j.source, j.target) else (j.target, j.source)
  let condition (side : JunctionSide) :=
    "\"" ++ related.name ++ "." ++ side.referencedColumn ++ " == " ++
      identifier j.name ++ ".c." ++ side.column ++ "\""
  ["primaryjoin=" ++ condition near, "secondaryjoin=" ++ condition far]

def storageArguments (e : End) : List String :=
  let onItself := e.entity.index == e.related.index
  match e.role with
  | .owner k =>
    ("foreign_keys=[" ++ k.column ++ "]") ::
      (if onItself then ["remote_side=[" ++ k.referencedColumn ++ "]"] else [])
  | .inverse k =>
    ("foreign_keys=\"[" ++ k.owner.name ++ "." ++ k.column ++ "]\"") ::
      (match e.cardinality with
        | .one => ["uselist=False"]
        | .many => [])
  | .junction j atSource =>
    ("secondary=" ++ identifier j.name) :: (if onItself then joinConditions e.related j atSource else [])

def relationshipLine (e : End) : String :=
  let arguments := ["\"" ++ e.related.name ++ "\"", "back_populates=\"" ++ e.inverseField ++ "\""] ++
    storageArguments e
  "    " ++ e.field ++ " = relationship(" ++ ", ".intercalate arguments ++ ")\n"

def MappedClass.render (c : MappedClass) : String :=
  let gap := if c.relationships.isEmpty then "" else "\n"
  "class " ++ c.entity.name ++ "(Base):\n    __tablename__ = \"" ++ c.entity.lowerName ++ "\"\n\n" ++
    String.join (c.columns.map (·.render)) ++ gap ++ String.join (c.relationships.map relationshipLine)

def sideLine (s : JunctionSide) : String :=
  "    Column(\"" ++ s.column ++ "\", " ++ typeExpression s.type ++ ", ForeignKey(" ++
    target s.entity s.referencedColumn ++ ", ondelete=\"CASCADE\"), primary_key=True),\n"

def associationTable (j : Junction) : String :=
  identifier j.name ++ " = Table(\n    \"" ++ j.name ++ "\",\n    Base.metadata,\n" ++
    sideLine j.source ++ sideLine j.target ++ ")\n"

def Module.render (m : Module) : String :=
  let uuid := if m.usesUuid then "import uuid\n\n" else ""
  let relationship := if m.usesRelationships then ", relationship" else ""
  let blocks := m.tables.map associationTable ++ m.classes.map (·.render)
  uuid ++ "from sqlalchemy import " ++ ", ".intercalate m.imports ++ "\n" ++
    "from sqlalchemy.orm import declarative_base" ++ relationship ++ "\n\n" ++
    "Base = declarative_base()\n" ++ String.join (blocks.map ("\n\n" ++ ·))

def code (r : Resolution) : String := (moduleOf r).render

end SchemaCode.SqlAlchemy
