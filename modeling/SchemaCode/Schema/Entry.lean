import SchemaCode.Notice
import SchemaCode.Schema.Fields

/-! A list of entries is read leniently: one that is null or not understood is left out and reported. -/

namespace SchemaCode

open Json (Value)

abbrev EntryReader (α : Type) := Value → Option α × List Notice

def readEntries {α : Type} (kind : EntryKind) (read : EntryReader α) : List Value → List α × List Notice
  | [] => ([], [])
  | v :: rest =>
    let (xs, later) := readEntries kind read rest
    if v.isNull then (xs, .nullEntry kind :: later)
    else match read v with
      | (some x, notices) => (x :: xs, notices ++ later)
      | (none, notices) => (xs, notices ++ .undecodableEntry kind :: later)

namespace Column

def ofFields? (f : Fields) : Option Column := do
  let name ← f.required ⟨0, ["name"]⟩ (·.string?)
  let type ← f.optional ⟨1, ["type"]⟩ .varchar fun v => v.string?.map ColumnType.ofString
  let primary ← f.optional ⟨2, ["isPrimary", "is_primary"]⟩ false (·.bool?)
  let unique ← f.optional ⟨3, ["isUnique", "is_unique"]⟩ false (·.bool?)
  let foreign ← f.optional ⟨4, ["isForeign", "is_foreign"]⟩ false (·.bool?)
  if f.fits 5 then some { name, type, primary, unique, foreign } else none

def read : EntryReader Column := fun v => ((Fields.ofValue? v).bind ofFields?, [])

end Column

namespace Table

structure Header where
  id : String
  name : String
  x : Float
  y : Float

def headerOf? (f : Fields) : Option Header := do
  let id ← f.required ⟨0, ["id"]⟩ (·.string?)
  let name ← f.required ⟨1, ["name"]⟩ (·.string?)
  let x ← f.optional ⟨2, ["x"]⟩ 0 (·.float?)
  let y ← f.optional ⟨3, ["y"]⟩ 0 (·.float?)
  some { id, name, x, y }

def readColumns (columns : Option Value) : Option (Option (List Column)) × List Notice :=
  match columns with
  | none => (some none, [])
  | some (.scalar .null) => (some none, [])
  | some (.array entries) =>
    let (columns, notices) := readEntries .column Column.read entries
    (some (some columns), notices)
  | some _ => (none, [])

def readFields (f : Fields) : Option Table × List Notice :=
  let header := headerOf? f
  let reached := match f with
    | .keyed _ => true
    | .positional _ => header.isSome
  if reached then
    let (columns, notices) := readColumns (f.get ⟨4, ["columns"]⟩).join
    let table := match header, columns with
      | some h, some columns =>
        if f.fits 5 then some { id := h.id, name := h.name, x := h.x, y := h.y, columns } else none
      | _, _ => none
    (table, notices)
  else (none, [])

def read : EntryReader Table := fun v =>
  match Fields.ofValue? v with
  | some f => readFields f
  | none => (none, [])

end Table

namespace Relationship

def ofFields? (f : Fields) : Option Relationship := do
  let id ← f.optional ⟨0, ["id"]⟩ "" (·.string?)
  let source ← f.required ⟨1, ["source", "source_id"]⟩ (·.string?)
  let target ← f.required ⟨2, ["target", "target_id"]⟩ (·.string?)
  let sourceKey ← f.optional ⟨3, ["sourceKey", "source_key"]⟩ "" (·.string?)
  let targetKey ← f.optional ⟨4, ["targetKey", "target_key"]⟩ "" (·.string?)
  let declared ← f.optional ⟨5, ["type"]⟩ none (Value.orNull fun v => v.string?.map RelationKind.ofString)
  let through ← f.optional ⟨6, ["through"]⟩ none (Value.orNull (·.string?))
  if f.fits 7 then some { id, source, target, sourceKey, targetKey, declared, through } else none

def read : EntryReader Relationship := fun v => ((Fields.ofValue? v).bind ofFields?, [])

end Relationship

end SchemaCode
