import Mathlib.Data.List.Induction
import SchemaCode.Proofs.Schema.Documents

namespace SchemaCode

open Json (Value)

variable {α : Type}

def EntryReader.understood? (read : EntryReader α) (v : Value) : Option α :=
  if v.isNull then none else (read v).1

lemma readEntries_fst (kind : EntryKind) (read : EntryReader α) (vs : List Value) :
    (readEntries kind read vs).1 = vs.filterMap read.understood? := by
  induction vs with
  | nil => rfl
  | cons v vs ih =>
    rw [readEntries, List.filterMap_cons, EntryReader.understood?, ← ih]
    cases v.isNull with
    | true => rfl
    | false =>
      rcases read v with ⟨_ | x, notices⟩ <;> rfl

namespace DocumentSection

def name? : DocumentSection → Option String
  | .name n => n
  | _ => none

def tableList : DocumentSection → List Table
  | .tables entries => entries.filterMap (EntryReader.understood? Table.read)
  | _ => []

def relationshipList : DocumentSection → List Relationship
  | .relationships entries => entries.filterMap (EntryReader.understood? Relationship.read)
  | _ => []

lemma name?_of_key_ne {x : DocumentSection} (h : x.key ≠ .name) : x.name? = none := by
  cases x <;> first | rfl | exact absurd rfl h

lemma tableList_of_key_ne {x : DocumentSection} (h : x.key ≠ .tables) : x.tableList = [] := by
  cases x <;> first | rfl | exact absurd rfl h

lemma relationshipList_of_key_ne {x : DocumentSection} (h : x.key ≠ .relationships) : x.relationshipList = [] := by
  cases x <;> first | rfl | exact absurd rfl h

end DocumentSection

def Sections.schema (xs : Sections) : Schema where
  name := xs.findSome? DocumentSection.name?
  tables := xs.flatMap DocumentSection.tableList
  relationships := xs.flatMap DocumentSection.relationshipList

lemma contents_fst {xs : Sections} (h : (xs.map DocumentSection.key).Nodup) (fault : Option Json.Fault) :
    (Document.contents ⟨xs, fault⟩).1 = xs.schema := by
  induction xs using List.reverseRecOn with
  | nil => rfl
  | append_singleton xs x ih =>
    rw [List.map_append, List.map_singleton, List.nodup_append] at h
    have hkey : ∀ y ∈ xs, y.key ≠ x.key := fun y hy => h.2.2 _ (List.mem_map_of_mem hy) _ (List.mem_singleton_self _)
    have hfold : (Document.contents ⟨xs ++ [x], fault⟩) = Document.addSection (Document.contents ⟨xs, fault⟩) x := by
      simp [Document.contents]
    rw [hfold]
    cases x with
    | name n =>
      have hname : xs.findSome? DocumentSection.name? = none :=
        List.findSome?_eq_none_iff.mpr fun y hy => DocumentSection.name?_of_key_ne (hkey y hy)
      simp [Document.addSection, ih h.1, Sections.schema, hname, DocumentSection.name?, DocumentSection.tableList,
        DocumentSection.relationshipList]
    | tables vs =>
      have htables : xs.flatMap DocumentSection.tableList = [] :=
        List.flatMap_eq_nil_iff.mpr fun y hy => DocumentSection.tableList_of_key_ne (hkey y hy)
      simp [Document.addSection, ih h.1, Sections.schema, htables, DocumentSection.name?, DocumentSection.tableList,
        DocumentSection.relationshipList, readEntries_fst]
    | relationships vs =>
      have hrelationships : xs.flatMap DocumentSection.relationshipList = [] :=
        List.flatMap_eq_nil_iff.mpr fun y hy => DocumentSection.relationshipList_of_key_ne (hkey y hy)
      simp [Document.addSection, ih h.1, Sections.schema, hrelationships, DocumentSection.name?,
        DocumentSection.tableList, DocumentSection.relationshipList, readEntries_fst]

/-- A list of entries, and the same list without one that is null or not understood. -/
inductive Omits (read : EntryReader α) : List Value → List Value → Prop
  | mk {before after : List Value} {v : Value} (hv : read.understood? v = none) :
      Omits read (before ++ v :: after) (before ++ after)

inductive OmitsColumn : Value → Value → Prop
  | keyed {before after : List (String × Value)} {vs vs' : List Value} (h : Omits Column.read vs vs') :
      OmitsColumn (.object (before ++ ("columns", .array vs) :: after))
        (.object (before ++ ("columns", .array vs') :: after))
  | positional {before after : List Value} {vs vs' : List Value} (hbefore : before.length = 4)
      (h : Omits Column.read vs vs') :
      OmitsColumn (.array (before ++ .array vs :: after)) (.array (before ++ .array vs' :: after))

inductive Omission : Sections → Sections → Prop
  | table {xs ys : Sections} {vs vs' : List Value} (h : Omits Table.read vs vs') :
      Omission (xs ++ .tables vs :: ys) (xs ++ .tables vs' :: ys)
  | relationship {xs ys : Sections} {vs vs' : List Value} (h : Omits Relationship.read vs vs') :
      Omission (xs ++ .relationships vs :: ys) (xs ++ .relationships vs' :: ys)
  | column {xs ys : Sections} {vs ws : List Value} {v v' : Value} (h : OmitsColumn v v') :
      Omission (xs ++ .tables (vs ++ v :: ws) :: ys) (xs ++ .tables (vs ++ v' :: ws) :: ys)

lemma Omits.filterMap_eq {read : EntryReader α} {vs vs' : List Value} (h : Omits read vs vs') :
    vs'.filterMap read.understood? = vs.filterMap read.understood? := by
  obtain ⟨hv⟩ := h
  rw [List.filterMap_append, List.filterMap_append, List.filterMap_cons_none hv]

namespace Table

lemma readColumns_fst_of_filterMap {vs vs' : List Value}
    (h : vs'.filterMap (EntryReader.understood? Column.read) = vs.filterMap (EntryReader.understood? Column.read)) :
    (readColumns (some (.array vs'))).1 = (readColumns (some (.array vs))).1 := by
  simp only [readColumns, readEntries_fst, h]

lemma readFields_fst (f : Fields) : (readFields f).1 =
    (headerOf? f).bind fun h => (readColumns (f.get ⟨4, ["columns"]⟩).join).1.bind fun columns =>
      if f.fits 5 then some { id := h.id, name := h.name, x := h.x, y := h.y, columns } else none := by
  cases f with
  | keyed ms =>
    rw [readFields]
    rcases headerOf? (.keyed ms) with _ | h
    · rfl
    · rcases (readColumns ((Fields.keyed ms).get ⟨4, ["columns"]⟩).join) with ⟨_ | columns, notices⟩ <;> rfl
  | positional items =>
    rw [readFields]
    rcases headerOf? (.positional items) with _ | h
    · rfl
    · rcases (readColumns ((Fields.positional items).get ⟨4, ["columns"]⟩).join) with ⟨_ | columns, notices⟩ <;> rfl

lemma headerOf?_congr {f f' : Fields} (hid : f'.get ⟨0, ["id"]⟩ = f.get ⟨0, ["id"]⟩)
    (hname : f'.get ⟨1, ["name"]⟩ = f.get ⟨1, ["name"]⟩) (hx : f'.get ⟨2, ["x"]⟩ = f.get ⟨2, ["x"]⟩)
    (hy : f'.get ⟨3, ["y"]⟩ = f.get ⟨3, ["y"]⟩) : headerOf? f' = headerOf? f := by
  simp only [headerOf?, Fields.required, Fields.optional, hid, hname, hx, hy]

end Table

lemma member?_cons_of_ne {k key : String} (h : k ≠ key) (before after : List (String × Value)) (v : Value) :
    Json.member? (before ++ (k, v) :: after) key = Json.member? (before ++ after) key := by
  simp [Json.member?, List.find?_append, h]

lemma member?_cons_self (before after : List (String × Value)) (key : String) (v : Value) :
    Json.member? (before ++ (key, v) :: after) key = (Json.member? after key).or (some v) := by
  simp only [Json.member?, List.reverse_append, List.reverse_cons, List.append_assoc, List.find?_append,
    List.singleton_append, List.find?_cons_of_pos, BEq.rfl]
  cases after.reverse.find? (fun m => m.1 == key) <;> rfl

lemma get_keyed (ms : List (String × Value)) (position : Nat) (key : String) :
    (Fields.keyed ms).get ⟨position, [key]⟩ = some (Json.member? ms key) := by
  simp only [Fields.get, List.filterMap_cons, List.filterMap_nil]
  cases Json.member? ms key <;> rfl

namespace Table

variable {vs vs' : List Value}

lemma understood?_keyed (before after : List (String × Value))
    (h : (readColumns (some (.array vs'))).1 = (readColumns (some (.array vs))).1) :
    EntryReader.understood? read (.object (before ++ ("columns", .array vs') :: after)) =
      EntryReader.understood? read (.object (before ++ ("columns", .array vs) :: after)) := by
  show (readFields (.keyed _)).1 = (readFields (.keyed _)).1
  have hget : ∀ position key, "columns" ≠ key →
      (Fields.keyed (before ++ ("columns", .array vs') :: after)).get ⟨position, [key]⟩ =
        (Fields.keyed (before ++ ("columns", .array vs) :: after)).get ⟨position, [key]⟩ := by
    intro position key hkey
    rw [get_keyed, get_keyed, member?_cons_of_ne hkey, member?_cons_of_ne hkey]
  have hcolumns : (readColumns ((Json.member? after "columns").or (some (.array vs')))).1 =
      (readColumns ((Json.member? after "columns").or (some (.array vs)))).1 := by
    cases Json.member? after "columns" with
    | none => exact h
    | some v => rfl
  rw [readFields_fst, readFields_fst, headerOf?_congr (hget 0 "id" (by decide)) (hget 1 "name" (by decide))
    (hget 2 "x" (by decide)) (hget 3 "y" (by decide)), get_keyed, get_keyed, member?_cons_self, member?_cons_self,
    Option.join_some, Option.join_some, hcolumns]
  rfl

lemma understood?_positional {before : List Value} (hbefore : before.length = 4) (after : List Value)
    (h : (readColumns (some (.array vs'))).1 = (readColumns (some (.array vs))).1) :
    EntryReader.understood? read (.array (before ++ .array vs' :: after)) =
      EntryReader.understood? read (.array (before ++ .array vs :: after)) := by
  show (readFields (.positional _)).1 = (readFields (.positional _)).1
  have hget : ∀ position key, position < 4 →
      (Fields.positional (before ++ .array vs' :: after)).get ⟨position, [key]⟩ =
        (Fields.positional (before ++ .array vs :: after)).get ⟨position, [key]⟩ := by
    intro position key hposition
    rw [← hbefore] at hposition
    simp only [Fields.get, List.getElem?_append_left hposition]
  have hcolumns : ∀ ws, (Fields.positional (before ++ .array ws :: after)).get ⟨4, ["columns"]⟩ =
      some (some (.array ws)) := by
    intro ws
    simp [Fields.get, hbefore]
  have hfits : (Fields.positional (before ++ .array vs' :: after)).fits 5 =
      (Fields.positional (before ++ .array vs :: after)).fits 5 := by
    simp [Fields.fits]
  rw [readFields_fst, readFields_fst, headerOf?_congr (hget 0 "id" (by decide)) (hget 1 "name" (by decide))
    (hget 2 "x" (by decide)) (hget 3 "y" (by decide)), hcolumns, hcolumns, Option.join_some, Option.join_some, h, hfits]

end Table

lemma OmitsColumn.understood?_eq {v v' : Value} (h : OmitsColumn v v') :
    EntryReader.understood? Table.read v' = EntryReader.understood? Table.read v := by
  cases h with
  | keyed h => exact Table.understood?_keyed _ _ (Table.readColumns_fst_of_filterMap h.filterMap_eq)
  | positional hbefore h =>
    exact Table.understood?_positional hbefore _ (Table.readColumns_fst_of_filterMap h.filterMap_eq)

lemma Sections.schema_congr {x x' : DocumentSection} (hname : x'.name? = x.name?) (htables : x'.tableList = x.tableList)
    (hrelationships : x'.relationshipList = x.relationshipList) (xs ys : Sections) :
    Sections.schema (xs ++ x' :: ys) = Sections.schema (xs ++ x :: ys) := by
  simp [Sections.schema, List.findSome?_cons, hname, htables, hrelationships]

lemma Omission.schema_eq {xs xs' : Sections} (h : Omission xs xs') : xs'.schema = xs.schema := by
  cases h with
  | table h =>
    refine Sections.schema_congr ?_ ?_ ?_ _ _
    · rfl
    · exact h.filterMap_eq
    · rfl
  | relationship h =>
    refine Sections.schema_congr ?_ ?_ ?_ _ _
    · rfl
    · rfl
    · exact h.filterMap_eq
  | column h =>
    refine Sections.schema_congr ?_ ?_ ?_ _ _
    · rfl
    · simp only [DocumentSection.tableList, List.filterMap_append, List.filterMap_cons, h.understood?_eq]
    · rfl

namespace Schema

lemma ofText_eq_ok {text : String} {xs : Sections} (h : DocumentText text.toList xs) : ofText text = .ok xs.schema := by
  simp only [ofText, (Document.read_eq_iff text xs).mpr h, contents_fst h.nodup_keys]

lemma exists_documentText {text : String} {s : Schema} (h : ofText text = .ok s) :
    ∃ xs, DocumentText text.toList xs := by
  have hfault : (Document.read text).fault = none := by
    unfold ofText at h
    dsimp only at h
    split at h
    · cases h
    · assumption
  exact ⟨(Document.read text).sections, (Document.read_eq_iff text _).mp (by rw [← hfault])⟩

theorem documents_decode_leniently (text : String) :
    ((∃ schema, ofText text = .ok schema) ↔ ∃ xs, DocumentText text.toList xs) ∧
      (∀ xs, DocumentText text.toList xs → ofText text = .ok xs.schema) ∧
      ∀ xs xs' text', DocumentText text.toList xs → Omission xs xs' → DocumentText text'.toList xs' →
        ofText text' = ofText text := by
  refine ⟨⟨?_, ?_⟩, fun xs h => ofText_eq_ok h, ?_⟩
  · rintro ⟨schema, h⟩
    exact exists_documentText h
  · rintro ⟨xs, h⟩
    exact ⟨xs.schema, ofText_eq_ok h⟩
  · intro xs xs' text' h homission h'
    rw [ofText_eq_ok h, ofText_eq_ok h', homission.schema_eq]

theorem documents_decode_leniently_emptyTable :
    DocumentText "[null,[\x7b\x7d]]".toList [.name none, .tables [.object []]] ∧
      Omission [.name none, .tables [.object []]] [.name none, .tables []] ∧
      DocumentText "[null,[]]".toList [.name none, .tables []] ∧
      ofText "[null,[]]" = ofText "[null,[\x7b\x7d]]" := by
  have hnil : Json.Blank [] := List.forall_mem_nil _
  have hkeys : [SectionKey.name, SectionKey.tables] <+: SectionKey.all := ⟨[.relationships], rfl⟩
  have htable : Json.ValueText DocumentSection.entryDepth ['\x7b', '\x7d'] (.object []) := .object (.none hnil)
  have hone : DocumentText "[null,[\x7b\x7d]]".toList [.name none, .tables [.object []]] :=
    .list hnil (.some (.more hnil .unnamed hnil (.one hnil (.tables (.list (.some (.one hnil htable hnil)))) hnil)))
      hnil hkeys
  have hnone : DocumentText "[null,[]]".toList [.name none, .tables []] :=
    .list hnil (.some (.more hnil .unnamed hnil (.one hnil (.tables (.list (.none hnil))) hnil))) hnil hkeys
  have hmissing : Omits Table.read ([] ++ .object [] :: []) ([] ++ []) := .mk rfl
  have homission : Omission ([.name none] ++ .tables [.object []] :: []) ([.name none] ++ .tables [] :: []) :=
    .table hmissing
  exact ⟨hone, homission, hnone, (documents_decode_leniently "[null,[\x7b\x7d]]").2.2 _ _ _ hone homission hnone⟩

end Schema

end SchemaCode
