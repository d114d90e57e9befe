import SchemaCode.Schema.Basic

namespace SchemaCode

inductive Edit where
  | addTable (id name : String) (columns : List Column)
  | addDraft (id name : String)
  | addColumn (table : Nat) (column : Column)
  | renameTable (table : Nat) (name : String)
  | dropColumns (table : Nat)
  | dropTable (table : Nat)
  | relate (relationship : Relationship)
  | unrelate (relationship : Nat)
  | reverseRelationships
  | rename (name : String)

namespace Schema

def modifyTable? (s : Schema) (i : Nat) (change : Table → Table) : Option Schema :=
  if i < s.tables.length then some { s with tables := s.tables.modify i change } else none

def edit? (s : Schema) : Edit → Option Schema
  | .addTable id name columns =>
    some { s with tables := s.tables ++ [{ id, name, columns := some columns }] }
  | .addDraft id name => some { s with tables := s.tables ++ [{ id, name, columns := none }] }
  | .addColumn i c => s.modifyTable? i fun t => { t with columns := some (t.columns.getD [] ++ [c]) }
  | .renameTable i name => s.modifyTable? i fun t => { t with name }
  | .dropColumns i => s.modifyTable? i fun t => { t with columns := none }
  | .dropTable i =>
    if i < s.tables.length then some { s with tables := s.tables.eraseIdx i } else none
  | .relate r => some { s with relationships := s.relationships ++ [r] }
  | .unrelate i =>
    if i < s.relationships.length then some { s with relationships := s.relationships.eraseIdx i }
    else none
  | .reverseRelationships => some { s with relationships := s.relationships.reverse }
  | .rename name => some { s with name := some name }

end Schema

end SchemaCode
