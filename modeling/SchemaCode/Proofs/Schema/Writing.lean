import SchemaCode.Proofs.Json.Writing
import SchemaCode.Proofs.Schema.Documents

namespace SchemaCode

open Json (Blank Items Written joined memberText)

structure WrittenSection where
  text : List Char
  found : DocumentSection
  spells : SectionText text found

namespace WrittenSection

def name (n : String) : WrittenSection where
  text := '"' :: (Json.Quoted.written n ++ ['"'])
  found := .name (some n)
  spells := by
    have hname := SectionText.name (Json.Quoted.spells_written n)
    rwa [String.ofList_toList] at hname

lemma entriesText (ws : List (Written DocumentSection.entryDepth)) :
    EntriesText (Written.array ws).text (ws.map (·.value)) := .list (Json.items_joined (Written.forall₂_items ws))

def tables (ws : List (Written DocumentSection.entryDepth)) : WrittenSection where
  text := (Written.array ws).text
  found := .tables (ws.map (·.value))
  spells := .tables (entriesText ws)

def relationships (ws : List (Written DocumentSection.entryDepth)) : WrittenSection where
  text := (Written.array ws).text
  found := .relationships (ws.map (·.value))
  spells := .relationships (entriesText ws)

def member (x : WrittenSection) : List Char := memberText x.found.key.spelling x.text

lemma member_spells (x : WrittenSection) : DocumentMember x.member (some x.found) :=
  .known (Json.Quoted.spells_written _) String.ofList_toList Json.blank_nil Json.blank_nil x.spells

end WrittenSection

def documentText (xs : List WrittenSection) : List Char :=
  '\x7b' :: (joined (xs.map (·.member)) ++ ['\x7d'])

lemma items_members (xs : List WrittenSection) :
    Items DocumentMember (joined (xs.map (·.member))) (xs.map fun x => some x.found) := by
  refine Json.items_joined ?_
  rw [List.forall₂_map_left_iff, List.forall₂_map_right_iff, List.forall₂_same]
  exact fun x _ => x.member_spells

lemma reduceOption_found (xs : List WrittenSection) :
    (xs.map fun x => some x.found).reduceOption = xs.map (·.found) := by
  rw [List.reduceOption, List.filterMap_map]
  exact congrFun List.filterMap_eq_map xs

lemma documentText_spells (xs : List WrittenSection) (h : (xs.map (·.found.key)).Nodup) :
    DocumentText (documentText xs) (xs.map (·.found)) := by
  have hdocument := DocumentText.object Json.blank_nil (items_members xs) Json.blank_nil (by
    rwa [reduceOption_found, List.map_map])
  rwa [reduceOption_found] at hdocument

variable {depth : Nat}

def Column.written (c : Column) : Written (depth + 1) :=
  .object [("name", .string c.name), ("type", .string c.type.spelling), ("isPrimary", .bool c.primary),
    ("isUnique", .bool c.unique), ("isForeign", .bool c.foreign)]

def Table.written (t : Table) : Written (depth + 3) :=
  .object ([("id", .string t.id), ("name", .string t.name), ("x", .zero), ("y", .zero)] ++
    t.columns.toList.map fun cs => ("columns", .array (cs.map Column.written)))

def Relationship.written (r : Relationship) : Written (depth + 1) :=
  .object ([("id", .string r.id), ("source", .string r.source), ("target", .string r.target),
      ("sourceKey", .string r.sourceKey), ("targetKey", .string r.targetKey)] ++
    r.declared.toList.map (fun k => ("type", .string k.spelling)) ++
    r.through.toList.map fun name => ("through", .string name))

namespace Schema

def written (s : Schema) : List WrittenSection :=
  s.name.toList.map .name ++
    [.tables (s.tables.map Table.written), .relationships (s.relationships.map Relationship.written)]

def text (s : Schema) : String := String.ofList (documentText s.written)

end Schema

end SchemaCode
