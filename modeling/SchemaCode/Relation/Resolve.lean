import SchemaCode.Names
import SchemaCode.Notice
import SchemaCode.Relation.Resolution

/-! Relationships are resolved one after the other. Names that later ones ask for keep clear of those given before. -/

namespace SchemaCode

structure Ownership where
  owner : Entity
  referenced : Entity
  localKey : String
  referencedKey : String
  unique : Bool

namespace Relationship

def ownership? (r : Relationship) (source target : Entity) : Option Ownership :=
  match r.kind with
  | .oneToMany => some ⟨target, source, r.targetKey, r.sourceKey, false⟩
  | .manyToOne => some ⟨source, target, r.sourceKey, r.targetKey, false⟩
  | .oneToOne => some ⟨source, target, r.sourceKey, r.targetKey, true⟩
  | .manyToMany => none

def junctionName? (r : Relationship) : Option String := r.through.filter (· != "")

def relationName (r : Relationship) (source target : Entity) : String :=
  let plain := source.name ++ "To" ++ target.name
  match r.kind with
  | .manyToMany => r.junctionName?.getD plain
  | _ => plain

def junctionKey (r : Relationship) (source target : Entity) : String :=
  r.junctionName?.getD (source.lowerName ++ "_" ++ target.lowerName)

end Relationship

def fieldName (lowerName : String) : Cardinality → String
  | .one => lowerName
  | .many => lowerName ++ "s"

def keyColumn (key : String) : String := if key == "" then "id" else key

namespace Ownership

def reusesLocal (o : Ownership) : Bool :=
  match o.owner.column? o.localKey with
  | some c => !c.primary
  | none => false

def standIn (o : Ownership) : String := o.referenced.lowerName ++ "_" ++ keyColumn o.referencedKey

def column (o : Ownership) : String := if o.reusesLocal then o.localKey else o.standIn

end Ownership

structure Draft where
  entities : List Entity
  names : Names
  links : List Link := []
  junctions : List Junction := []
  notices : List Notice := []

namespace Draft

def foreignKeys (d : Draft) : List ForeignKey := d.links.filterMap (·.foreignKey?)

def find? (d : Draft) (id : String) : Option Entity := d.entities.find? (·.id == id)

def notice (d : Draft) (n : Notice) : Draft := { d with notices := d.notices ++ [n] }

def claim (d : Draft) (scope : Scope) (base : String) : String × Draft :=
  let (name, names) := d.names.claim scope base
  (name, { d with names })

def stores (d : Draft) (owner : Entity) (column : String) : Bool :=
  owner.hasColumn column ||
    d.foreignKeys.any fun k => k.owner.index == owner.index && k.column == column

def foreignKey (d : Draft) (o : Ownership) : ForeignKey where
  index := d.foreignKeys.length
  owner := o.owner
  column := o.column
  type := o.referenced.typeOf (keyColumn o.referencedKey)
  referenced := o.referenced
  referencedColumn := keyColumn o.referencedKey
  unique := o.unique
  synthesized := !o.reusesLocal && !d.stores o.owner o.standIn

def reserve (d : Draft) (key : ForeignKey) : Draft :=
  if key.synthesized then
    { d with names := d.names.insert (.members key.owner.index) key.column }
  else d

def newJunction (index : Nat) (key name : String) (source target : Entity)
    (sourceKey targetKey : String) : Junction :=
  let sourceColumn := source.lowerName ++ "_" ++ sourceKey
  let targetColumn := target.lowerName ++ "_" ++ targetKey
  { index, key, name
    source := ⟨source, sourceColumn, source.typeOf sourceKey, sourceKey⟩
    target := ⟨target, if targetColumn == sourceColumn then "related_" ++ targetColumn else targetColumn,
      target.typeOf targetKey, targetKey⟩ }

def junction (d : Draft) (r : Relationship) (source target : Entity) : Junction × Draft :=
  let key := r.junctionKey source target
  match d.junctions.find? (·.key == key) with
  | some j => (j, d)
  | none =>
    let (name, d) := d.claim .storage key
    let d := if name == key then d else d.notice (.junctionRenamed key name)
    let j := newJunction d.junctions.length key name source target
      (keyColumn r.sourceKey) (keyColumn r.targetKey)
    (j, { d with junctions := d.junctions ++ [j] })

def addLink (d : Draft) (l : Link) : Draft := { d with links := d.links ++ [l] }

/-- Links two entities through a foreign key. The owner's field is named first. A key that the source
holds makes the source the owner, also where source and target are the same table. -/
def linkByKey (d : Draft) (r : Relationship) (source target : Entity) (name : String)
    (o : Ownership) : Draft :=
  let key := d.foreignKey o
  let d := d.reserve key
  let (ownerField, d) := d.claim (.members o.owner.index) (fieldName o.referenced.lowerName .one)
  let (inverseField, d) := d.claim (.members o.referenced.index)
    (fieldName o.owner.lowerName r.kind.inverseCardinality)
  let atSource := o.owner.index == source.index
  d.addLink
    { kind := r.kind, name, source, target
      sourceField := if atSource then ownerField else inverseField
      targetField := if atSource then inverseField else ownerField
      storage := .column key atSource }

def linkByJunction (d : Draft) (r : Relationship) (source target : Entity) (name : String) : Draft :=
  let (j, d) := d.junction r source target
  let (sourceField, d) := d.claim (.members source.index) (fieldName target.lowerName .many)
  let (targetField, d) := d.claim (.members target.index) (fieldName source.lowerName .many)
  d.addLink
    { kind := r.kind, name, source, target, sourceField, targetField
      storage := .junction j (j.source.entity.index == source.index) }

def link (d : Draft) (r : Relationship) (source target : Entity) : Draft :=
  let (name, d) := d.claim .relations (r.relationName source target)
  match r.ownership? source target with
  | some o => d.linkByKey r source target name o
  | none => d.linkByJunction r source target name

def add (d : Draft) (r : Relationship) : Draft :=
  match d.find? r.source with
  | none => d.notice (.unusableSource r.id r.kind r.source)
  | some source =>
    match d.find? r.target with
    | none => d.notice (.unusableTarget r.id r.kind r.target)
    | some target => d.link r source target

def initialNames (entities : List Entity) : Names :=
  let tables := Names.insertAll {} .storage (entities.map (·.lowerName))
  entities.foldl (fun names e => names.insertAll (.members e.index) (e.columns.map (·.name))) tables

def start (s : Schema) : Draft := ⟨s.entities, initialNames s.entities, [], [], []⟩

def resolution (d : Draft) (hasTables : Bool) : Resolution :=
  ⟨hasTables, d.entities, d.links, d.junctions⟩

end Draft

namespace Schema

def draft (s : Schema) : Draft := s.relationships.foldl Draft.add (Draft.start s)

def resolve (s : Schema) : Resolution := s.draft.resolution (!s.tables.isEmpty)

def resolveNotices (s : Schema) : List Notice := s.draft.notices

end Schema

end SchemaCode
