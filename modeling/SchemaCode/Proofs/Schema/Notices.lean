import SchemaCode.Proofs.Relation.Drops
import SchemaCode.Proofs.Schema.Decoding
import SchemaCode.Proofs.Schema.Writing

namespace SchemaCode

open Json (Value Written)

variable {α : Type}

/-- Where each entry went: to what was read, or to a notice. `reads` says what an entry is read as and what is
reported on the way. -/
inductive Accounted (kind : EntryKind) (reads : Value → Option α → List Notice → Prop) :
    List Value → List α → List Notice → Prop
  | nil : Accounted kind reads [] [] []
  | null {vs : List Value} {xs : List α} {log : List Notice} (h : Accounted kind reads vs xs log) :
      Accounted kind reads (.scalar .null :: vs) xs (.nullEntry kind :: log)
  | kept {v : Value} {x : α} {inner log : List Notice} {vs : List Value} {xs : List α} (hnull : v.isNull = false)
      (hv : reads v (some x) inner) (h : Accounted kind reads vs xs log) :
      Accounted kind reads (v :: vs) (x :: xs) (inner ++ log)
  | lost {v : Value} {inner log : List Notice} {vs : List Value} {xs : List α} (hnull : v.isNull = false)
      (hv : reads v none inner) (h : Accounted kind reads vs xs log) :
      Accounted kind reads (v :: vs) xs (inner ++ .undecodableEntry kind :: log)

def EntryReader.Silent (read : EntryReader α) (v : Value) (x : Option α) (inner : List Notice) : Prop :=
  (read v).1 = x ∧ inner = []

def Table.columnList? (v : Value) : Option Value :=
  (Fields.ofValue? v).bind fun f => (f.get ⟨4, ["columns"]⟩).join

/-- A table is read with its columns, each of which is kept or reported. The columns of a table that is lost may have
been read, too. -/
inductive ReadsTable (v : Value) : Option Table → List Notice → Prop
  | listed {t : Table} {vs : List Value} {columns : List Column} {log : List Notice} (ht : (Table.read v).1 = some t)
      (hlist : Table.columnList? v = some (.array vs)) (hcolumns : t.columns = some columns)
      (h : Accounted .column (EntryReader.Silent Column.read) vs columns log) : ReadsTable v (some t) log
  | unlisted {t : Table} (ht : (Table.read v).1 = some t)
      (hlist : Table.columnList? v = none ∨ Table.columnList? v = some (.scalar .null)) (hcolumns : t.columns = none) :
      ReadsTable v (some t) []
  | lost {log : List Notice} (ht : (Table.read v).1 = none)
      (h : log = [] ∨ ∃ vs columns, Table.columnList? v = some (.array vs) ∧
        Accounted .column (EntryReader.Silent Column.read) vs columns log) : ReadsTable v none log

def Notice.isSkip (kind : EntryKind) : Notice → Bool
  | .nullEntry k => k = kind
  | .undecodableEntry k => k = kind
  | _ => false

lemma Notice.isSkip_nullEntry (kind : EntryKind) : (nullEntry kind).isSkip kind = true := decide_eq_true rfl

lemma Notice.isSkip_undecodableEntry (kind : EntryKind) : (undecodableEntry kind).isSkip kind = true :=
  decide_eq_true rfl

lemma Accounted.length {kind : EntryKind} {reads : Value → Option α → List Notice → Prop} {vs : List Value}
    {xs : List α} {log : List Notice} (hreads : ∀ v x inner, reads v x inner → inner.filter (Notice.isSkip kind) = [])
    (h : Accounted kind reads vs xs log) : xs.length + (log.filter (Notice.isSkip kind)).length = vs.length := by
  induction h with
  | nil => rfl
  | null h ih =>
    rw [List.filter_cons_of_pos (Notice.isSkip_nullEntry kind)]
    simp only [List.length_cons]
    omega
  | kept hnull hv h ih =>
    rw [List.filter_append, hreads _ _ _ hv]
    simp only [List.nil_append, List.length_cons]
    omega
  | lost hnull hv h ih =>
    rw [List.filter_append, hreads _ _ _ hv, List.filter_cons_of_pos (Notice.isSkip_undecodableEntry kind)]
    simp only [List.nil_append, List.length_cons]
    omega

lemma accounted_readEntries (kind : EntryKind) {read : EntryReader α}
    {reads : Value → Option α → List Notice → Prop} (h : ∀ v, reads v (read v).1 (read v).2) (vs : List Value) :
    Accounted kind reads vs (readEntries kind read vs).1 (readEntries kind read vs).2 := by
  induction vs with
  | nil => exact .nil
  | cons v vs ih =>
    rw [readEntries]
    cases hnull : v.isNull with
    | true =>
      obtain rfl : v = .scalar .null := by
        cases v with
        | scalar x => cases x <;> first | rfl | cases hnull
        | array => cases hnull
        | object => cases hnull
      exact .null ih
    | false =>
      have hv := h v
      rcases hread : read v with ⟨_ | x, inner⟩
      · rw [hread] at hv
        exact .lost hnull hv ih
      · rw [hread] at hv
        exact .kept hnull hv ih

lemma Column.silent (v : Value) : EntryReader.Silent Column.read v (Column.read v).1 (Column.read v).2 := ⟨rfl, rfl⟩

lemma Relationship.silent (v : Value) :
    EntryReader.Silent Relationship.read v (Relationship.read v).1 (Relationship.read v).2 := ⟨rfl, rfl⟩

namespace Table

lemma readColumns_cases (columns : Option Value) :
    ((columns = none ∨ columns = some (.scalar .null)) ∧ readColumns columns = (some none, [])) ∨
      (∃ vs, columns = some (.array vs) ∧ readColumns columns =
        (some (some (readEntries .column Column.read vs).1), (readEntries .column Column.read vs).2)) ∨
      readColumns columns = (none, []) := by
  rcases columns with _ | (_ | _ | _ | _) | vs | _
  · exact .inl ⟨.inl rfl, rfl⟩
  · exact .inl ⟨.inr rfl, rfl⟩
  · exact .inr (.inr rfl)
  · exact .inr (.inr rfl)
  · exact .inr (.inr rfl)
  · exact .inr (.inl ⟨vs, rfl, rfl⟩)
  · exact .inr (.inr rfl)

lemma readFields_snd (f : Fields) : (readFields f).2 = [] ∧ (readFields f).1 = none ∨
    (readFields f).2 = (readColumns (f.get ⟨4, ["columns"]⟩).join).2 := by
  cases f with
  | keyed ms => exact .inr rfl
  | positional items =>
    rw [readFields]
    split
    · exact .inr rfl
    · exact .inl ⟨rfl, rfl⟩

lemma columns_of_readFields {f : Fields} {t : Table} (h : (readFields f).1 = some t) :
    (readColumns (f.get ⟨4, ["columns"]⟩).join).1 = some t.columns := by
  rw [readFields_fst] at h
  obtain ⟨header, -, h⟩ := Option.bind_eq_some_iff.mp h
  obtain ⟨columns, hcolumns, h⟩ := Option.bind_eq_some_iff.mp h
  split at h
  · cases h
    exact hcolumns
  · cases h

lemma readsTable_read (v : Value) : ReadsTable v (read v).1 (read v).2 := by
  have hsilent := accounted_readEntries .column Column.silent
  cases hf : Fields.ofValue? v with
  | none =>
    have hread : read v = (none, []) := by simp only [read, hf]
    rw [hread]
    exact .lost (congrArg Prod.fst hread) (.inl rfl)
  | some f =>
    have hread : read v = readFields f := by simp only [read, hf]
    have hlist : columnList? v = (f.get ⟨4, ["columns"]⟩).join := by simp only [columnList?, hf, Option.bind_some]
    rw [hread]
    have hcases := readColumns_cases (f.get ⟨4, ["columns"]⟩).join
    rw [← hlist] at hcases
    cases ht : (readFields f).1 with
    | none =>
      refine .lost (hread ▸ ht) ?_
      rcases readFields_snd f with ⟨hlog, -⟩ | hlog
      · exact .inl hlog
      · rw [hlog, ← hlist]
        rcases hcases with ⟨-, h⟩ | ⟨vs, hvs, h⟩ | h
        · exact .inl (by rw [h])
        · exact .inr ⟨vs, _, hvs, by rw [h]; exact hsilent vs⟩
        · exact .inl (by rw [h])
    | some t =>
      have hcolumns := columns_of_readFields ht
      have hlog : (readFields f).2 = (readColumns (columnList? v)).2 := by
        rcases readFields_snd f with ⟨-, hnone⟩ | hlog
        · cases ht.symm.trans hnone
        · rw [hlog, hlist]
      rw [← hlist] at hcolumns
      rw [hlog]
      rcases hcases with ⟨hlist, h⟩ | ⟨vs, hvs, h⟩ | h
      · rw [h] at hcolumns ⊢
        exact .unlisted (hread ▸ ht) hlist (Option.some.inj hcolumns).symm
      · rw [h] at hcolumns ⊢
        exact .listed (hread ▸ ht) hvs (Option.some.inj hcolumns).symm (hsilent vs)
      · rw [h] at hcolumns
        cases hcolumns

end Table

namespace DocumentSection

def tableEntries : DocumentSection → List Value
  | .tables vs => vs
  | _ => []

def relationshipEntries : DocumentSection → List Value
  | .relationships vs => vs
  | _ => []

def log : DocumentSection → List Notice
  | .name _ => []
  | .tables vs => (readEntries .table Table.read vs).2
  | .relationships vs => (readEntries .relationship Relationship.read vs).2

def share (tableLog relationshipLog : List Notice) : DocumentSection → List Notice
  | .name _ => []
  | .tables _ => tableLog
  | .relationships _ => relationshipLog

lemma tableEntries_of_key_ne {x : DocumentSection} (h : x.key ≠ .tables) : x.tableEntries = [] := by
  cases x <;> first | rfl | exact absurd rfl h

lemma relationshipEntries_of_key_ne {x : DocumentSection} (h : x.key ≠ .relationships) :
    x.relationshipEntries = [] := by
  cases x <;> first | rfl | exact absurd rfl h

end DocumentSection

namespace Sections

def tableEntries (xs : Sections) : List Value := xs.flatMap DocumentSection.tableEntries

def relationshipEntries (xs : Sections) : List Value := xs.flatMap DocumentSection.relationshipEntries

lemma flatMap_eq_of_mem {β : Type} {xs : Sections} {x : DocumentSection} (hkeys : (xs.map DocumentSection.key).Nodup)
    (hx : x ∈ xs) {entries : DocumentSection → List β} (h : ∀ y : DocumentSection, y.key ≠ x.key → entries y = []) :
    xs.flatMap entries = entries x := by
  obtain ⟨before, after, rfl⟩ := List.append_of_mem hx
  rw [List.map_append, List.map_cons, List.nodup_append, List.nodup_cons] at hkeys
  obtain ⟨-, ⟨hafter, -⟩, hbefore⟩ := hkeys
  have hnone : ∀ ys : Sections, (∀ y ∈ ys, y.key ≠ x.key) → ys.flatMap entries = [] :=
    fun ys hys => List.flatMap_eq_nil_iff.mpr fun y hy => h y (hys y hy)
  rw [List.flatMap_append, List.flatMap_cons, hnone before, hnone after, List.nil_append, List.append_nil]
  · exact fun y hy hkey => hafter (hkey ▸ List.mem_map_of_mem hy)
  · exact fun y hy hkey => hbefore _ (List.mem_map_of_mem hy) _ List.mem_cons_self hkey

lemma tables_schema (xs : Sections) : xs.schema.tables = (readEntries .table Table.read xs.tableEntries).1 := by
  rw [readEntries_fst, tableEntries, List.filterMap_flatMap]
  refine List.flatMap_congr fun x _ => ?_
  cases x <;> rfl

lemma relationships_schema (xs : Sections) :
    xs.schema.relationships = (readEntries .relationship Relationship.read xs.relationshipEntries).1 := by
  rw [readEntries_fst, relationshipEntries, List.filterMap_flatMap]
  refine List.flatMap_congr fun x _ => ?_
  cases x <;> rfl

lemma log_eq_share {xs : Sections} (h : (xs.map DocumentSection.key).Nodup) : xs.flatMap DocumentSection.log =
    xs.flatMap (DocumentSection.share (readEntries .table Table.read xs.tableEntries).2
      (readEntries .relationship Relationship.read xs.relationshipEntries).2) := by
  refine List.flatMap_congr fun x hx => ?_
  cases x with
  | name n => rfl
  | tables vs =>
    rw [tableEntries, flatMap_eq_of_mem h hx fun y => DocumentSection.tableEntries_of_key_ne]
    rfl
  | relationships vs =>
    rw [relationshipEntries, flatMap_eq_of_mem h hx fun y => DocumentSection.relationshipEntries_of_key_ne]
    rfl

end Sections

lemma contents_snd (xs : Sections) (fault : Option Json.Fault) :
    (Document.contents ⟨xs, fault⟩).2 = xs.flatMap DocumentSection.log := by
  induction xs using List.reverseRecOn with
  | nil => rfl
  | append_singleton xs x ih =>
    have hfold : (Document.contents ⟨xs ++ [x], fault⟩) = Document.addSection (Document.contents ⟨xs, fault⟩) x := by
      simp [Document.contents]
    rw [hfold, List.flatMap_append, ← ih]
    cases x <;> simp [Document.addSection, DocumentSection.log]

lemma ofTextNotices_eq {text : String} {xs : Sections} (h : DocumentText text.toList xs) :
    Schema.ofTextNotices text = xs.flatMap DocumentSection.log := by
  rw [Schema.ofTextNotices, (Document.read_eq_iff text xs).mpr h, contents_snd]

lemma ReadsTable.filter_isSkip {v : Value} {t : Option Table} {inner : List Notice} (h : ReadsTable v t inner) :
    inner.filter (Notice.isSkip .table) = [] := by
  have hcolumns : ∀ {vs columns log}, Accounted .column (EntryReader.Silent Column.read) vs columns log →
      log.filter (Notice.isSkip .table) = [] := by
    intro vs columns log h
    induction h with
    | nil => rfl
    | null h ih => exact ih
    | kept hnull hv h ih =>
      obtain ⟨-, rfl⟩ := hv
      exact ih
    | lost hnull hv h ih =>
      obtain ⟨-, rfl⟩ := hv
      exact ih
  cases h with
  | listed ht hlist hlisted h => exact hcolumns h
  | unlisted => rfl
  | lost ht h =>
    rcases h with rfl | ⟨vs, columns, -, h⟩
    · rfl
    · exact hcolumns h

namespace Schema

/-- What stands in a text is in the schema, and in its links, or else it is reported. -/
structure Reported (text : String) (s : Schema) (xs : Sections) (tableLog relationshipLog : List Notice) : Prop where
  document : DocumentText text.toList xs
  notices : ofTextNotices text = xs.flatMap (DocumentSection.share tableLog relationshipLog)
  tables : Accounted .table ReadsTable xs.tableEntries s.tables tableLog
  length_tables : s.tables.length + (tableLog.filter (Notice.isSkip .table)).length = xs.tableEntries.length
  relationships : Accounted .relationship (EntryReader.Silent Relationship.read) xs.relationshipEntries s.relationships
    relationshipLog
  length_relationships : s.relationships.length + (relationshipLog.filter (Notice.isSkip .relationship)).length =
    xs.relationshipEntries.length
  drops : s.resolveNotices.filter Notice.isDrop = s.relationships.filterMap s.drop?
  ends : s.resolve.ends.length + 2 * (s.resolveNotices.filter Notice.isDrop).length = 2 * s.relationships.length

theorem reported_of_ofText {text : String} {s : Schema} (h : ofText text = .ok s) :
    ∃ xs tableLog relationshipLog, Reported text s xs tableLog relationshipLog := by
  obtain ⟨xs, hxs⟩ := exists_documentText h
  obtain rfl := Except.ok.inj ((ofText_eq_ok hxs).symm.trans h)
  have htables := accounted_readEntries .table Table.readsTable_read xs.tableEntries
  have hrelationships := accounted_readEntries .relationship Relationship.silent xs.relationshipEntries
  rw [← Sections.tables_schema] at htables
  rw [← Sections.relationships_schema] at hrelationships
  refine ⟨xs, _, _, hxs, ?_, htables, ?_, hrelationships, ?_, drops_resolveNotices _, length_ends_add_drops _⟩
  · rw [ofTextNotices_eq hxs, Sections.log_eq_share hxs.nodup_keys]
  · exact htables.length fun _ _ _ => ReadsTable.filter_isSkip
  · exact hrelationships.length fun _ _ _ hv => congrArg (List.filter _) hv.2

def danglingText : String :=
  "\x7b\"tables\":[null,\x7b\"id\":\"a\",\"name\":\"t\",\"columns\":[null]\x7d]," ++
    "\"relationships\":[\x7b\"source\":\"a\",\"target\":\"b\"\x7d]\x7d"

def dangling : Schema where
  tables := [{ id := "a", name := "t", columns := some [] }]
  relationships := [{ source := "a", target := "b" }]

theorem reported_of_ofText_dangling : ofText danglingText = .ok dangling ∧
    ∃ xs tableLog relationshipLog, Reported danglingText dangling xs tableLog relationshipLog := by
  have hdocument := documentText_spells [
    .tables [.null, .object [("id", .string "a"), ("name", .string "t"), ("columns", .array [.null])]],
    .relationships [.object [("source", .string "a"), ("target", .string "b")]]] (by decide)
  have hdecoded : ofText danglingText = .ok dangling := @ofText_eq_ok danglingText _ hdocument
  exact ⟨hdecoded, reported_of_ofText hdecoded⟩

end Schema

end SchemaCode
