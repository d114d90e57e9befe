import SchemaCode.Relation.Entity

/-! A link has two ends, the first on its source. It is stored in a foreign key column or in a junction. -/

namespace SchemaCode

inductive Cardinality where
  | one
  | many
  deriving DecidableEq

structure ForeignKey where
  index : Nat
  owner : Entity
  column : String
  type : ColumnType
  referenced : Entity
  referencedColumn : String
  unique : Bool
  /-- The owner declares no such column, so it has to be added; this is the first key to need it. -/
  synthesized : Bool

def ForeignKey.toColumn (k : ForeignKey) : Column :=
  ⟨k.column, k.type, false, k.unique, true⟩

structure JunctionSide where
  entity : Entity
  column : String
  type : ColumnType
  referencedColumn : String

structure Junction where
  index : Nat
  /-- The name that was asked for; links that ask for the same one share the junction. -/
  key : String
  name : String
  source : JunctionSide
  target : JunctionSide

inductive Storage where
  /-- A column of the source, if `atSource`, otherwise of the target. -/
  | column (key : ForeignKey) (atSource : Bool)
  /-- A junction; `forward` if the link's source is the junction's. -/
  | junction (junction : Junction) (forward : Bool)

structure Link where
  kind : RelationKind
  name : String
  source : Entity
  target : Entity
  sourceField : String
  targetField : String
  storage : Storage

inductive Role where
  | owner (key : ForeignKey)
  | inverse (key : ForeignKey)
  | junction (junction : Junction) (atSource : Bool)

structure End where
  index : Nat
  inverse : Nat
  kind : RelationKind
  entity : Entity
  related : Entity
  field : String
  inverseField : String
  cardinality : Cardinality
  relation : String
  role : Role

namespace RelationKind

/-- How many rows of its owner a foreign key of this kind lets the referenced row have. -/
def inverseCardinality : RelationKind → Cardinality
  | .oneToOne => .one
  | _ => .many

end RelationKind

namespace Link

def foreignKey? (l : Link) : Option ForeignKey :=
  match l.storage with
  | .column key _ => some key
  | .junction .. => none

def sourceRole (l : Link) : Role :=
  match l.storage with
  | .column key atSource => if atSource then .owner key else .inverse key
  | .junction j forward => .junction j forward

def targetRole (l : Link) : Role :=
  match l.storage with
  | .column key atSource => if atSource then .inverse key else .owner key
  | .junction j forward => .junction j (!forward)

def cardinalityOf (l : Link) : Role → Cardinality
  | .owner _ => .one
  | .inverse _ => l.kind.inverseCardinality
  | .junction .. => .many

def sourceEnd (l : Link) (k : Nat) : End where
  index := 2 * k
  inverse := 2 * k + 1
  kind := l.kind
  entity := l.source
  related := l.target
  field := l.sourceField
  inverseField := l.targetField
  cardinality := l.cardinalityOf l.sourceRole
  relation := l.name
  role := l.sourceRole

def targetEnd (l : Link) (k : Nat) : End where
  index := 2 * k + 1
  inverse := 2 * k
  kind := l.kind
  entity := l.target
  related := l.source
  field := l.targetField
  inverseField := l.sourceField
  cardinality := l.cardinalityOf l.targetRole
  relation := l.name
  role := l.targetRole

end Link

end SchemaCode
