import SchemaCode.Proofs.Schema.Rewording
import SchemaCode.Proofs.Schema.Writing

/-! Documents that say the same in other words. -/

namespace SchemaCode

open Json (Blank Bracket Items Value)

inductive RewordsColumn : Value → Value → Prop
  | keyed {before after : List (String × Value)} {vs ws : List Value} {v v' : Value}
      (h : EntryKind.column.Rewords v v') :
      RewordsColumn (.object (before ++ ("columns", .array (vs ++ v :: ws)) :: after))
        (.object (before ++ ("columns", .array (vs ++ v' :: ws)) :: after))
  | positional {before after vs ws : List Value} {v v' : Value} (hbefore : before.length = 4)
      (h : EntryKind.column.Rewords v v') :
      RewordsColumn (.array (before ++ .array (vs ++ v :: ws) :: after))
        (.array (before ++ .array (vs ++ v' :: ws) :: after))

lemma RewordsColumn.understood?_eq {v v' : Value} (h : RewordsColumn v v') :
    EntryReader.understood? Table.read v' = EntryReader.understood? Table.read v := by
  cases h with
  | keyed h =>
    exact Table.understood?_keyed _ _ (Table.readColumns_fst_of_filterMap
      (EntryReader.filterMap_understood? (Column.understood?_of_alike h.alike) _ _))
  | positional hbefore h =>
    exact Table.understood?_positional hbefore _ (Table.readColumns_fst_of_filterMap
      (EntryReader.filterMap_understood? (Column.understood?_of_alike h.alike) _ _))

namespace DocumentSection

inductive Rewords : DocumentSection → DocumentSection → Prop
  | table {vs ws : List Value} {v v' : Value} (h : EntryKind.table.Rewords v v') :
      Rewords (.tables (vs ++ v :: ws)) (.tables (vs ++ v' :: ws))
  | column {vs ws : List Value} {v v' : Value} (h : RewordsColumn v v') :
      Rewords (.tables (vs ++ v :: ws)) (.tables (vs ++ v' :: ws))
  | relationship {vs ws : List Value} {v v' : Value} (h : EntryKind.relationship.Rewords v v') :
      Rewords (.relationships (vs ++ v :: ws)) (.relationships (vs ++ v' :: ws))

variable {x x' : DocumentSection}

lemma Rewords.key_eq (h : x.Rewords x') : x'.key = x.key := by
  cases h <;> rfl

lemma Rewords.schema_eq (h : x.Rewords x') (xs ys : Sections) :
    Sections.schema (xs ++ x' :: ys) = Sections.schema (xs ++ x :: ys) := by
  cases h with
  | table h =>
    refine Sections.schema_congr ?_ ?_ ?_ _ _
    · rfl
    · exact EntryReader.filterMap_understood? (Table.understood?_of_alike h.alike) _ _
    · rfl
  | column h =>
    refine Sections.schema_congr ?_ ?_ ?_ _ _
    · rfl
    · exact EntryReader.filterMap_understood? h.understood?_eq _ _
    · rfl
  | relationship h =>
    refine Sections.schema_congr ?_ ?_ ?_ _ _
    · rfl
    · rfl
    · exact EntryReader.filterMap_understood? (Relationship.understood?_of_alike h.alike) _ _

end DocumentSection

def SectionKey.null : SectionKey → DocumentSection
  | .name => .name none
  | .tables => .tables []
  | .relationships => .relationships []

lemma SectionKey.key_null (key : SectionKey) : key.null.key = key := by
  cases key <;> rfl

namespace Sections

lemma schema_null (key : SectionKey) (xs ys : Sections) : schema (xs ++ key.null :: ys) = schema (xs ++ ys) := by
  cases key <;> simp [schema, SectionKey.null, DocumentSection.name?, DocumentSection.tableList,
    DocumentSection.relationshipList, List.findSome?_cons]

lemma schema_perm {xs ys : Sections} (hkeys : (xs.map DocumentSection.key).Nodup) (h : xs.Perm ys) :
    ys.schema = xs.schema := by
  induction h with
  | nil => rfl
  | cons x h ih =>
    have hschema := ih (List.nodup_cons.mp hkeys).2
    simp only [schema, Schema.mk.injEq] at hschema ⊢
    simp only [List.findSome?_cons, List.flatMap_cons, hschema, and_self]
  | swap x y xs =>
    have hne : y.key ≠ x.key := by
      rintro hkey
      simp [hkey] at hkeys
    cases x <;> cases y <;> first
      | exact absurd rfl hne
      | simp [schema, List.findSome?_cons, DocumentSection.name?, DocumentSection.tableList,
          DocumentSection.relationshipList]
  | trans h h' ih ih' => exact (ih' ((h.map DocumentSection.key).nodup hkeys)).trans (ih hkeys)

end Sections

/-- What stands in a document: its sections, and nothing where an object has a member of its own. -/
structure Outline where
  bracket : Bracket
  members : List (Option DocumentSection)

namespace Outline

def sections (o : Outline) : Sections := o.members.reduceOption

lemma sections_append (bracket : Bracket) (before after : List (Option DocumentSection)) :
    sections ⟨bracket, before ++ after⟩ = before.reduceOption ++ after.reduceOption :=
  List.reduceOption_append before after

lemma sections_none (bracket : Bracket) (before after : List (Option DocumentSection)) :
    sections ⟨bracket, before ++ none :: after⟩ = before.reduceOption ++ after.reduceOption :=
  sections_append bracket before (none :: after)

lemma sections_some (bracket : Bracket) (before after : List (Option DocumentSection)) (x : DocumentSection) :
    sections ⟨bracket, before ++ some x :: after⟩ = before.reduceOption ++ x :: after.reduceOption :=
  sections_append bracket before (some x :: after)

def Valid (o : Outline) : Prop :=
  match o.bracket with
  | .object => (o.sections.map DocumentSection.key).Nodup
  | .list => o.sections.map DocumentSection.key <+: SectionKey.all

inductive Rewords : Outline → Outline → Prop
  | unknown {before after : List (Option DocumentSection)} :
      Rewords ⟨.object, before ++ after⟩ ⟨.object, before ++ none :: after⟩
  | null {before after : List (Option DocumentSection)} {key : SectionKey}
      (habsent : ∀ x ∈ (before ++ after).reduceOption, x.key ≠ key) :
      Rewords ⟨.object, before ++ after⟩ ⟨.object, before ++ some key.null :: after⟩
  | permuted {ms ms' : List (Option DocumentSection)} (h : ms.Perm ms') : Rewords ⟨.object, ms⟩ ⟨.object, ms'⟩
  | entry {bracket : Bracket} {before after : List (Option DocumentSection)} {x x' : DocumentSection}
      (h : x.Rewords x') : Rewords ⟨bracket, before ++ some x :: after⟩ ⟨bracket, before ++ some x' :: after⟩

variable {o o' : Outline}

lemma Rewords.valid_iff (h : Rewords o o') : o'.Valid ↔ o.Valid := by
  cases h with
  | unknown => rw [Valid, Valid, sections_none, sections_append]
  | @null before after key habsent =>
    rw [List.reduceOption_append] at habsent
    have hkey : key ∉ (before.reduceOption ++ after.reduceOption).map DocumentSection.key := by
      rintro hkey
      obtain ⟨x, hx, rfl⟩ := List.mem_map.mp hkey
      exact habsent x hx rfl
    simp only [Valid]
    rw [sections_some, sections_append]
    simp only [List.map_append, List.map_cons, SectionKey.key_null] at hkey ⊢
    exact List.perm_middle.nodup_iff.trans (List.nodup_cons.trans (and_iff_right hkey))
  | permuted h => exact ((h.filterMap id).map DocumentSection.key).nodup_iff.symm
  | entry h =>
    simp only [Valid]
    rw [sections_some, sections_some]
    simp only [List.map_append, List.map_cons, h.key_eq]

lemma Rewords.schema_eq (h : Rewords o o') (hvalid : o.Valid) : o'.sections.schema = o.sections.schema := by
  cases h with
  | unknown => rw [sections_none, sections_append]
  | null habsent =>
    rw [sections_some, sections_append]
    exact Sections.schema_null _ _ _
  | permuted h => exact Sections.schema_perm hvalid (h.filterMap id)
  | entry h =>
    rw [sections_some, sections_some]
    exact h.schema_eq _ _

lemma eqvGen_agree (h : Relation.EqvGen Rewords o o') :
    (o'.Valid ↔ o.Valid) ∧ (o.Valid → o'.sections.schema = o.sections.schema) := by
  induction h with
  | rel o o' h => exact ⟨h.valid_iff, h.schema_eq⟩
  | refl o => exact ⟨.rfl, fun _ => rfl⟩
  | symm o o' h ih => exact ⟨ih.1.symm, fun hvalid => (ih.2 (ih.1.mp hvalid)).symm⟩
  | trans o o' o'' h h' ih ih' =>
    exact ⟨ih'.1.trans ih.1, fun hvalid => (ih'.2 (ih.1.mpr hvalid)).trans (ih.2 hvalid)⟩

end Outline

inductive OutlineText : List Char → Outline → Prop
  | object {u t v : List Char} {ms : List (Option DocumentSection)} (hu : Blank u) (ht : Items DocumentMember t ms)
      (hv : Blank v) : OutlineText (u ++ '\x7b' :: (t ++ '\x7d' :: v)) ⟨.object, ms⟩
  | list {u t v : List Char} {xs : Sections} (hu : Blank u) (ht : Items SectionText t xs) (hv : Blank v) :
      OutlineText (u ++ '[' :: (t ++ ']' :: v)) ⟨.list, xs.map some⟩

lemma sections_list (xs : Sections) : Outline.sections ⟨.list, xs.map some⟩ = xs := by
  simp [Outline.sections, List.reduceOption]

lemma OutlineText.documentText {t : List Char} {o : Outline} (h : OutlineText t o) (hvalid : o.Valid) :
    DocumentText t o.sections := by
  cases h with
  | object hu ht hv => exact .object hu ht hv hvalid
  | @list u t v xs hu ht hv =>
    rw [Outline.Valid, sections_list] at hvalid
    rw [sections_list]
    exact .list hu ht hv hvalid

lemma DocumentText.exists_outline {t : List Char} {xs : Sections} (h : DocumentText t xs) :
    ∃ o : Outline, OutlineText t o ∧ o.Valid ∧ o.sections = xs := by
  cases h with
  | object hu ht hv hkeys => exact ⟨_, .object hu ht hv, hkeys, rfl⟩
  | list hu ht hv hkeys =>
    refine ⟨_, .list hu ht hv, ?_, sections_list _⟩
    rw [Outline.Valid, sections_list]
    exact hkeys

lemma outlineText_documentText (xs : List WrittenSection) :
    OutlineText (documentText xs) ⟨.object, xs.map fun x => some x.found⟩ :=
  .object Json.blank_nil (items_members xs) Json.blank_nil

namespace EntryReader

variable {α : Type} {read : EntryReader α}

def Skips (read : EntryReader α) (kind : EntryKind) (v : Value) : Prop :=
  ∀ vs ws, readEntries kind read (vs ++ v :: ws) = ((readEntries kind read (vs ++ ws)).1,
    (readEntries kind read vs).2 ++ .undecodableEntry kind :: (readEntries kind read ws).2)

lemma skips_of_read {ms : List (String × Value)} (kind : EntryKind) (h : read (.object ms) = (none, [])) :
    read.Skips kind (.object ms) := by
  intro vs ws
  induction vs with
  | nil => simp [readEntries, Value.isNull, h]
  | cons v vs ih =>
    rw [List.cons_append, List.cons_append, readEntries, readEntries, readEntries, ih]
    cases v.isNull with
    | true => rfl
    | false =>
      rcases read v with ⟨_ | x, notices⟩ <;> simp

end EntryReader

lemma Fields.get_both {ms : List (String × Value)} {p : FieldPlace} {a b : String} {v w : Value} (ha : (a, v) ∈ ms)
    (hb : (b, w) ∈ ms) (hp : p.keys = [a, b] ∨ p.keys = [b, a]) : (Fields.keyed ms).get p = none := by
  have hfound : ∀ {key v}, (key, v) ∈ ms → ∃ w, Json.member? ms key = some w := by
    intro key v hmem
    exact Option.ne_none_iff_exists'.mp fun h => member?_eq_none_iff.mp h _ hmem rfl
  obtain ⟨v', ha⟩ := hfound ha
  obtain ⟨w', hb⟩ := hfound hb
  rcases hp with hp | hp
  · simp [Fields.get, hp, ha, hb]
  · simp [Fields.get, hp, ha, hb]

lemma Column.ofFields?_eq_none {f : Fields} {p : FieldPlace} (hp : p ∈ EntryKind.column.places) (h : f.get p = none) :
    ofFields? f = none := by
  simp only [EntryKind.places, List.mem_cons, List.not_mem_nil, or_false] at hp
  rcases hp with rfl | rfl | rfl | rfl | rfl <;> simp [ofFields?, Fields.required, Fields.optional, h]

lemma Relationship.ofFields?_eq_none {f : Fields} {p : FieldPlace} (hp : p ∈ EntryKind.relationship.places)
    (h : f.get p = none) : ofFields? f = none := by
  simp only [EntryKind.places, List.mem_cons, List.not_mem_nil, or_false] at hp
  rcases hp with rfl | rfl | rfl | rfl | rfl | rfl | rfl <;> simp [ofFields?, Fields.required, Fields.optional, h]

lemma Column.skips_both {ms : List (String × Value)} {a b : String} {v w : Value} (ha : (a, v) ∈ ms) (hb : (b, w) ∈ ms)
    (h : EntryKind.column.Spellings a b) : EntryReader.Skips read .column (.object ms) := by
  obtain ⟨p, hp, hkeys⟩ := h
  refine EntryReader.skips_of_read .column ?_
  exact Prod.ext (ofFields?_eq_none hp (Fields.get_both ha hb hkeys)) rfl

lemma Relationship.skips_both {ms : List (String × Value)} {a b : String} {v w : Value} (ha : (a, v) ∈ ms)
    (hb : (b, w) ∈ ms) (h : EntryKind.relationship.Spellings a b) :
    EntryReader.Skips read .relationship (.object ms) := by
  obtain ⟨p, hp, hkeys⟩ := h
  refine EntryReader.skips_of_read .relationship ?_
  exact Prod.ext (ofFields?_eq_none hp (Fields.get_both ha hb hkeys)) rfl

namespace Schema

theorem ofText_reworded :
    (∀ text s, ofText text = .ok s ↔ ∃ o : Outline, OutlineText text.toList o ∧ o.Valid ∧ o.sections.schema = s) ∧
      (∀ text text' o o', OutlineText text.toList o → o.Valid → Relation.EqvGen Outline.Rewords o o' →
        OutlineText text'.toList o' → ofText text' = ofText text) ∧
      ∀ (ms : List (String × Value)) (a b : String) (v w : Value), (a, v) ∈ ms → (b, w) ∈ ms →
        (EntryKind.column.Spellings a b → EntryReader.Skips Column.read .column (.object ms)) ∧
          (EntryKind.relationship.Spellings a b → EntryReader.Skips Relationship.read .relationship (.object ms)) := by
  refine ⟨fun text s => ⟨?_, ?_⟩, ?_, fun ms a b v w ha hb => ⟨Column.skips_both ha hb, Relationship.skips_both ha hb⟩⟩
  · intro h
    obtain ⟨xs, hxs⟩ := exists_documentText h
    obtain ⟨o, ho, hvalid, rfl⟩ := hxs.exists_outline
    exact ⟨o, ho, hvalid, Except.ok.inj ((ofText_eq_ok hxs).symm.trans h)⟩
  · rintro ⟨o, ho, hvalid, rfl⟩
    exact ofText_eq_ok (ho.documentText hvalid)
  · intro text text' o o' ho hvalid h ho'
    obtain ⟨hvalid', hschema⟩ := Outline.eqvGen_agree h
    rw [ofText_eq_ok (ho.documentText hvalid), ofText_eq_ok (ho'.documentText (hvalid'.mpr hvalid)), hschema hvalid]

def persistedText : String :=
  "\x7b\"tables\":[\x7b\"name\":\"t\",\"id\":\"a\",\"columns\":[\x7b\"name\":\"c\",\"is_primary\":true\x7d]\x7d]\x7d"

def editorText : String :=
  "\x7b\"tables\":[\x7b\"name\":\"t\",\"id\":\"a\",\"columns\":[\x7b\"name\":\"c\",\"isPrimary\":true\x7d]\x7d]" ++
    ",\"relationships\":[]\x7d"

def tableSpelled (key : String) : Value :=
  .object [("name", .scalar (.string "t")), ("id", .scalar (.string "a")),
    ("columns", .array [.object [("name", .scalar (.string "c")), (key, .scalar (.bool true))]])]

theorem ofText_reworded_editor :
    (∃ o o', OutlineText persistedText.toList o ∧ o.Valid ∧ Relation.EqvGen Outline.Rewords o o' ∧
      OutlineText editorText.toList o' ∧ ofText editorText = ofText persistedText) ∧
      EntryReader.Skips Column.read .column
        (.object [("isPrimary", .scalar .null), ("is_primary", .scalar .null)]) := by
  have hpersisted := outlineText_documentText [.tables [.object [("name", .string "t"), ("id", .string "a"),
    ("columns", .array [.object [("name", .string "c"), ("is_primary", .bool true)]])]]]
  have heditor := outlineText_documentText [.tables [.object [("name", .string "t"), ("id", .string "a"),
    ("columns", .array [.object [("name", .string "c"), ("isPrimary", .bool true)]])]], .relationships []]
  have hspellings : EntryKind.column.Spellings "is_primary" "isPrimary" := by
    refine ⟨⟨2, ["isPrimary", "is_primary"]⟩, ?_, .inr rfl⟩
    simp [EntryKind.places]
  have hcolumn : RewordsColumn (tableSpelled "is_primary") (tableSpelled "isPrimary") :=
    @RewordsColumn.keyed [_, _] [] [] [] _ _ (@EntryKind.Rewords.respelled _ [_, _] _ _ hspellings (by decide))
  have hentry : Outline.Rewords ⟨.object, [some (.tables [tableSpelled "is_primary"])]⟩
      ⟨.object, [some (.tables [tableSpelled "isPrimary"])]⟩ :=
    @Outline.Rewords.entry _ [] [] _ _ (@DocumentSection.Rewords.column [] [] _ _ hcolumn)
  have hnull : Outline.Rewords ⟨.object, [some (.tables [tableSpelled "isPrimary"])]⟩
      ⟨.object, [some (.tables [tableSpelled "isPrimary"]), some (.relationships [])]⟩ :=
    @Outline.Rewords.null [_] [] .relationships (by simp [DocumentSection.key])
  have hvalid : Outline.Valid ⟨.object, [some (.tables [tableSpelled "is_primary"])]⟩ := by
    show [SectionKey.tables].Nodup
    decide
  have hreworded := Relation.EqvGen.trans _ _ _ (.rel _ _ hentry) (.rel _ _ hnull)
  refine ⟨⟨_, _, hpersisted, hvalid, hreworded, heditor, ?_⟩, ?_⟩
  · exact ofText_reworded.2.1 persistedText editorText _ _ hpersisted hvalid hreworded heditor
  · exact (ofText_reworded.2.2 _ _ _ _ _ (.tail _ List.mem_cons_self) List.mem_cons_self).1 hspellings

end Schema

end SchemaCode
