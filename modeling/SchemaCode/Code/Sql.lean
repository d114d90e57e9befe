import SchemaCode.Relation.Order

/-! Tables are created in dependency order. A foreign key whose table is not there by then is added at the end. -/

namespace SchemaCode.Sql

def typeName : ColumnType → String
  | .uuid => "UUID"
  | .text => "TEXT"
  | .integer => "INTEGER"
  | .decimal => "DECIMAL(10, 2)"
  | .boolean => "BOOLEAN"
  | .timestamp => "TIMESTAMP"
  | .date => "DATE"
  | .json => "JSONB"
  | .varchar | .other _ => "VARCHAR(255)"

structure ColumnDefinition where
  column : Column
  notNull : Bool

structure Constraint where
  owner : Entity
  column : String
  referenced : Entity
  referencedColumn : String

def Constraint.agrees (a b : Constraint) : Bool :=
  a.column == b.column && a.referenced.index == b.referenced.index &&
    a.referencedColumn == b.referencedColumn

inductive Statement where
  | createTable (entity : Entity) (columns : List ColumnDefinition) (constraints : List Constraint)
  | createJunction (junction : Junction)
  | addConstraint (constraint : Constraint)

def constraint (k : ForeignKey) : Constraint := ⟨k.owner, k.column, k.referenced, k.referencedColumn⟩

def constraintsOf (r : Resolution) (table : Nat) : List Constraint :=
  ((r.foreignKeysOf table).map constraint).eraseDupsBy Constraint.agrees

def columnsOf (r : Resolution) (e : Entity) : List ColumnDefinition :=
  (r.columnsOf e).map (⟨·, false⟩) ++ (r.addedColumnsOf e.index).map (⟨·, true⟩)

/-- The statements for the tables `rest`, when those at the positions `created` are there already,
and the constraints that have to wait. -/
def createTables (r : Resolution) : (created : List Nat) → (rest : List Entity) →
    List Statement × List Constraint
  | _, [] => ([], [])
  | created, e :: rest =>
    let created := e.index :: created
    let (inside, waiting) := (constraintsOf r e.index).partition fun c => created.contains c.referenced.index
    let (statements, deferred) := createTables r created rest
    (.createTable e (columnsOf r e) inside :: statements, waiting ++ deferred)

def statements (r : Resolution) : List Statement :=
  let (tables, deferred) := createTables r [] r.dependencyOrder
  tables ++ r.junctions.map .createJunction ++ deferred.map .addConstraint

def ColumnDefinition.render (d : ColumnDefinition) : String :=
  let identity := if d.column.primary then
      match d.column.type with
      | .uuid => " PRIMARY KEY DEFAULT gen_random_uuid()"
      | .integer => " PRIMARY KEY GENERATED BY DEFAULT AS IDENTITY"
      | _ => " PRIMARY KEY"
    else ""
  let unique := if d.column.unique then " UNIQUE" else ""
  let notNull := if d.notNull then " NOT NULL" else ""
  "  " ++ d.column.name ++ " " ++ typeName d.column.type ++ identity ++ unique ++ notNull

def foreignKeyClause (column : String) (referenced : Entity) (referencedColumn : String) : String :=
  "FOREIGN KEY (" ++ column ++ ") REFERENCES " ++ referenced.lowerName ++ "(" ++ referencedColumn ++ ")"

def Constraint.render (c : Constraint) : String :=
  foreignKeyClause c.column c.referenced c.referencedColumn

def sideDefinition (s : JunctionSide) : String :=
  "  " ++ s.column ++ " " ++ typeName s.type ++ " NOT NULL"

def sideClause (s : JunctionSide) : String :=
  "  " ++ foreignKeyClause s.column s.entity s.referencedColumn ++ " ON DELETE CASCADE"

def createStatement (name : String) (lines : List String) : String :=
  let body := if lines.isEmpty then "" else ",\n".intercalate lines ++ "\n"
  "CREATE TABLE " ++ name ++ " (\n" ++ body ++ ");\n\n"

def Statement.render : Statement → String
  | .createTable e columns constraints =>
    createStatement e.lowerName (columns.map (·.render) ++ constraints.map ("  " ++ ·.render))
  | .createJunction j =>
    createStatement j.name
      [sideDefinition j.source, sideDefinition j.target,
        "  PRIMARY KEY (" ++ j.source.column ++ ", " ++ j.target.column ++ ")",
        sideClause j.source, sideClause j.target]
  | .addConstraint c => "ALTER TABLE " ++ c.owner.lowerName ++ " ADD " ++ c.render ++ ";\n"

def code (r : Resolution) : String := String.join ((statements r).map (·.render))

end SchemaCode.Sql
