import SchemaCode.Schema.Basic

namespace SchemaCode

inductive EntryKind where
  | table
  | column
  | relationship
  deriving DecidableEq

def EntryKind.label : EntryKind → String
  | .table => "Table"
  | .column => "Column"
  | .relationship => "Relationship"

inductive Notice where
  | nullEntry (entry : EntryKind)
  | undecodableEntry (entry : EntryKind)
  | unusableSource (relationship : String) (kind : RelationKind) (source : String)
  | unusableTarget (relationship : String) (kind : RelationKind) (target : String)
  | junctionRenamed (requested actual : String)
  deriving DecidableEq

namespace Notice

def message : Notice → String
  | .nullEntry _ => "skipping null entry"
  | .undecodableEntry _ => "skipping undecodable entry"
  | .unusableSource .. => "dropping relationship with unusable source"
  | .unusableTarget .. => "dropping relationship with unusable target"
  | .junctionRenamed .. => "junction name taken by a table"

def details : Notice → List (String × String)
  | .nullEntry e => [("entry", e.label)]
  | .undecodableEntry e => [("entry", e.label)]
  | .unusableSource r k s => [("relationship", r), ("kind", k.spelling), ("source", s)]
  | .unusableTarget r k t => [("relationship", r), ("kind", k.spelling), ("target", t)]
  | .junctionRenamed q a => [("junction", q), ("renamed", a)]

end Notice

end SchemaCode
