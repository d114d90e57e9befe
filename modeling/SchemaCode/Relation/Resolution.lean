import SchemaCode.Relation.Link

namespace SchemaCode

structure Resolution where
  /-- Whether the schema has any table at all, finished or not. -/
  hasTables : Bool
  entities : List Entity
  links : List Link
  junctions : List Junction

namespace Resolution

def ends (r : Resolution) : List End :=
  r.links.zipIdx.flatMap fun (l, k) => [l.sourceEnd k, l.targetEnd k]

def foreignKeys (r : Resolution) : List ForeignKey := r.links.filterMap (·.foreignKey?)

def endsOf (r : Resolution) (table : Nat) : List End := r.ends.filter (·.entity.index == table)

def foreignKeysOf (r : Resolution) (table : Nat) : List ForeignKey :=
  r.foreignKeys.filter (·.owner.index == table)

def foreignKeyOn? (r : Resolution) (table : Nat) (column : String) : Option ForeignKey :=
  (r.foreignKeysOf table).find? (·.column == column)

def addedKeysOf (r : Resolution) (table : Nat) : List ForeignKey :=
  (r.foreignKeysOf table).filter (·.synthesized)

def addedColumnsOf (r : Resolution) (table : Nat) : List Column :=
  (r.addedKeysOf table).map (·.toColumn)

def flag (keys : List ForeignKey) (c : Column) : Column :=
  let held := keys.filter (·.column == c.name)
  { c with
    foreign := c.foreign || !held.isEmpty
    unique := c.unique || held.any (·.unique) }

def columnsOf (r : Resolution) (e : Entity) : List Column :=
  e.columns.map (flag (r.foreignKeysOf e.index))

def columnsAt (r : Resolution) (table : Nat) : List Column :=
  match r.entities.find? (·.index == table) with
  | some e => r.columnsOf e
  | none => []

end Resolution

end SchemaCode
