import SchemaCode.Proofs.Schema.Notices

namespace SchemaCode

open Json (Value Written)

variable {α : Type} {depth : Nat}

namespace ColumnType

def known : List ColumnType := [uuid, varchar, text, integer, decimal, boolean, timestamp, date, json]

/-- A spelling is kept where it does not mean a known type. -/
def Kept : ColumnType → Prop
  | .other spelling => ∀ k ∈ known, Text.lower spelling ≠ k.spelling
  | _ => True

lemma ofString_of_mem_known : ∀ k ∈ known, ofString k.spelling = k := by
  decide +kernel

lemma ofString_spelling {k : ColumnType} (h : k.Kept) : ofString k.spelling = k := by
  cases k with
  | other spelling =>
    simp only [Kept, known, List.forall_mem_cons, ColumnType.spelling] at h
    obtain ⟨huuid, hvarchar, htext, hinteger, hdecimal, hboolean, htimestamp, hdate, hjson, -⟩ := h
    rw [ColumnType.spelling, ofString]
    split
    case h_10 => rfl
    all_goals
      rename_i hlower
      exact absurd hlower (by assumption)
  | _ => exact ofString_of_mem_known _ (by decide)

end ColumnType

lemma readEntries_map (kind : EntryKind) {read : EntryReader α} (write : α → Written depth) {xs : List α}
    (h : ∀ x ∈ xs, (write x).value.isNull = false ∧ read (write x).value = (some x, [])) :
    readEntries kind read ((xs.map write).map (·.value)) = (xs, []) := by
  induction xs with
  | nil => rfl
  | cons x xs ih =>
    obtain ⟨⟨hnull, hread⟩, h⟩ := List.forall_mem_cons.mp h
    rw [List.map_cons, List.map_cons, readEntries, ih h, hnull, hread]
    rfl

lemma Column.read_written {c : Column} (h : c.type.Kept) :
    Column.read (c.written : Written (depth + 1)).value = (some c, []) := by
  have hfields : Column.read (c.written : Written (depth + 1)).value =
      (some { c with type := .ofString c.type.spelling }, []) := by
    rcases c with ⟨name, type, _ | _, _ | _, _ | _⟩ <;> rfl
  rw [hfields, ColumnType.ofString_spelling h]

lemma Relationship.read_written (r : Relationship) :
    Relationship.read (r.written : Written (depth + 1)).value = (some r, []) := by
  rcases r with ⟨id, source, target, sourceKey, targetKey, _ | declared, _ | through⟩
  · rfl
  · rfl
  · cases declared <;> rfl
  · cases declared <;> rfl

lemma toFloat_zero : Json.Number.toFloat (.integer 0) = 0 := by
  decide

structure Table.Writable (t : Table) : Prop where
  x : t.x = 0
  y : t.y = 0
  types : ∀ cs, t.columns = some cs → ∀ c ∈ cs, c.type.Kept

lemma Table.read_written {t : Table} (h : t.Writable) :
    Table.read (t.written : Written (depth + 3)).value = (some t, []) := by
  rcases t with ⟨tableId, name, x, y, _ | cs⟩
  · obtain ⟨rfl, rfl, -⟩ := h
    have hread : Table.read ((⟨tableId, name, 0, 0, none⟩ : Table).written : Written (depth + 3)).value =
        (some ⟨tableId, name, Json.Number.toFloat (.integer 0), Json.Number.toFloat (.integer 0), none⟩, []) := rfl
    rw [hread, toFloat_zero]
  · obtain ⟨rfl, rfl, htypes⟩ := h
    have hcolumns := readEntries_map .column (@Column.written depth) fun c hc =>
      ⟨rfl, Column.read_written (htypes cs rfl c hc)⟩
    have hread : Table.read ((⟨tableId, name, 0, 0, some cs⟩ : Table).written : Written (depth + 3)).value =
        let columns := readEntries .column Column.read ((cs.map (@Column.written depth)).map (·.value))
        (some ⟨tableId, name, Json.Number.toFloat (.integer 0), Json.Number.toFloat (.integer 0), some columns.1⟩,
          columns.2) := rfl
    rw [hread, hcolumns, toFloat_zero]

namespace Schema

def Writable (s : Schema) : Prop := ∀ t ∈ s.tables, t.Writable

def sections (s : Schema) : Sections := s.written.map (·.found)

variable {s : Schema}

lemma documentText_sections (s : Schema) : DocumentText (documentText s.written) s.sections := by
  apply documentText_spells
  rcases s with ⟨_ | name, tables, relationships⟩
  · show [SectionKey.tables, .relationships].Nodup
    decide
  · show [SectionKey.name, .tables, .relationships].Nodup
    decide

lemma readEntries_tables (h : s.Writable) :
    readEntries .table Table.read s.sections.tableEntries = (s.tables, []) := by
  have hentries : s.sections.tableEntries =
      (s.tables.map (@Table.written 122)).map (·.value) := by
    rcases s with ⟨_ | name, tables, relationships⟩
    · exact List.append_nil _
    · exact List.append_nil _
  rw [hentries]
  exact readEntries_map .table _ fun t ht => ⟨rfl, Table.read_written (h t ht)⟩

lemma readEntries_relationships (s : Schema) :
    readEntries .relationship Relationship.read s.sections.relationshipEntries = (s.relationships, []) := by
  have hentries : s.sections.relationshipEntries =
      (s.relationships.map (@Relationship.written 124)).map (·.value) := by
    rcases s with ⟨_ | name, tables, relationships⟩
    · exact List.append_nil _
    · exact List.append_nil _
  rw [hentries]
  exact readEntries_map .relationship _ fun r _ => ⟨rfl, r.read_written⟩

lemma schema_sections (h : s.Writable) : s.sections.schema = s := by
  have htables := s.sections.tables_schema
  have hrelationships := s.sections.relationships_schema
  rw [readEntries_tables h] at htables
  rw [readEntries_relationships] at hrelationships
  have hname : s.sections.schema.name = s.name := by
    rcases s with ⟨_ | name, tables, relationships⟩
    · rfl
    · rfl
  cases hs : s.sections.schema with
  | mk name tables relationships =>
    rw [hs] at hname htables hrelationships
    subst hname htables hrelationships
    rfl

lemma read_of_documentText (h : s.Writable) {text : String} (htext : DocumentText text.toList s.sections) :
    ofText text = .ok s ∧ ofTextNotices text = [] := by
  have hlog := Sections.log_eq_share htext.nodup_keys
  rw [readEntries_tables h, readEntries_relationships] at hlog
  constructor
  · rw [ofText_eq_ok htext, schema_sections h]
  · rw [ofTextNotices_eq htext, hlog, List.flatMap_eq_nil_iff]
    intro x hx
    cases x <;> rfl

lemma documentText_text (s : Schema) : DocumentText s.text.toList s.sections := by
  rw [text, String.toList_ofList]
  exact documentText_sections s

theorem ofText_text (h : s.Writable) : ofText s.text = .ok s ∧ ofTextNotices s.text = [] ∧
    ∀ text : String, DocumentText text.toList s.sections → ofText text = .ok s ∧ ofTextNotices text = [] := by
  obtain ⟨hread, hnotices⟩ := read_of_documentText h (documentText_text s)
  exact ⟨hread, hnotices, fun text => read_of_documentText h⟩

def shop : Schema where
  name := some "\"shop\" \\ größe\n"
  tables := [
    { id := "a", name := "Item", columns := some [{ name := "price", type := .other "Money", primary := true }] },
    { id := "b", name := "", columns := none }]
  relationships := [{ source := "a", target := "b", declared := some .manyToMany, through := some "a_b" }]

theorem ofText_text_shop : shop.Writable ∧ ofText shop.text = .ok shop ∧ ofTextNotices shop.text = [] := by
  have hmoney : ∀ k ∈ ColumnType.known, Text.lower "Money" ≠ k.spelling := by
    decide +kernel
  have hitem : Table.Writable
      { id := "a", name := "Item"
        columns := some [{ name := "price", type := .other "Money", primary := true }] } := by
    refine ⟨rfl, rfl, ?_⟩
    rintro _ ⟨⟩ c hc
    obtain rfl := List.mem_singleton.mp hc
    exact hmoney
  have hdrawn : Table.Writable { id := "b", name := "", columns := none } := ⟨rfl, rfl, fun _ h => nomatch h⟩
  have hshop : shop.Writable := by
    simp [Writable, shop, hitem, hdrawn]
  exact ⟨hshop, (ofText_text hshop).1, (ofText_text hshop).2.1⟩

end Schema

end SchemaCode
