import SchemaCode.Proofs.Code.BackReferences
import SchemaCode.Proofs.Code.Constraints

namespace SchemaCode

namespace Mongoose

variable {s : Schema} {r : Relationship} {k : Nat} {a b : End} {key : ForeignKey} {j : Junction} {forward : Bool}

def Field.isArray : Field → Bool
  | .column _ _ => false
  | .references _ _ => true

def Model.arraysFor (m : Model) (name : String) : List Field := m.fields.filter fun f => f.isArray && f.name == name

def Model.virtualsFor (m : Model) (name : String) : List Virtual := m.virtuals.filter (·.name == name)

lemma filter_filterMap_field {β : Type} {f : End → Option β} {p : β → Bool} {name : String} {ends : List End}
    (h : ∀ e y, f e = some y → p y = (e.field == name)) :
    (ends.filterMap f).filter p = (ends.filter (·.field == name)).filterMap f := by
  rw [List.filter_filterMap, List.filterMap_filter]
  congr
  funext e
  cases hf : f e with
  | none => simp
  | some y => simp [h e y hf, Option.filter]

lemma name_of_virtual? {e : End} {v : Virtual} (h : virtual? e = some v) : v.name = e.field := by
  unfold virtual? at h
  split at h
  · exact absurd h.symm (Option.some_ne_none v)
  · exact Option.some.inj h ▸ rfl
  · exact absurd h.symm (Option.some_ne_none v)
  · exact Option.some.inj h ▸ rfl

lemma arraysFor_model (h : a ∈ s.resolve.ends) :
    (model s.resolve a.entity).arraysFor a.field = (arrayField? a).toList := by
  have hcolumns : (columnFields s.resolve a.entity).filter (fun f => f.isArray && f.name == a.field) = [] := by
    rw [columnFields_eq, List.filter_map, List.map_eq_nil_iff, List.filter_eq_nil_iff]
    exact fun _ _ => Bool.false_ne_true
  have harrays : ∀ e f, arrayField? e = some f → (f.isArray && f.name == a.field) = (e.field == a.field) := by
    intro e f hf
    rw [arrayField?_eq_some hf]
    rfl
  rw [Model.arraysFor, model, List.filter_append, hcolumns, List.nil_append, filter_filterMap_field harrays,
    Schema.filter_endsOf_field h, List.filterMap_eq_flatMap_toList, List.flatMap_singleton]

lemma virtualsFor_model (h : a ∈ s.resolve.ends) :
    (model s.resolve a.entity).virtualsFor a.field = (virtual? a).toList := by
  have hvirtuals : ∀ e v, virtual? e = some v → (v.name == a.field) = (e.field == a.field) := by
    intro e v hv
    rw [name_of_virtual? hv]
  rw [Model.virtualsFor, model, filter_filterMap_field hvirtuals, Schema.filter_endsOf_field h,
    List.filterMap_eq_flatMap_toList, List.flatMap_singleton]

structure Field.RefersBy (f : Field) (column : String) : Prop where
  name : f.name = column
  spelled : ∀ line, f.Spells line → ∃ related options, line = "  " ++ column ++ ": \x7b " ++ ", ".intercalate
    (["type: Schema.Types.ObjectId", "ref: '" ++ related ++ "'", "required: true"] ++ options) ++ " \x7d"

lemma refersBy_column (c : Column) (key : ForeignKey) : (Field.column c (some key)).RefersBy c.name where
  name := rfl
  spelled := by
    rintro _ ⟨⟩
    exact ⟨_, _, rfl⟩

/-- The model of the owner has nothing for its end besides the column of the key, in which the other end is
looked up. -/
structure KeptInColumn (s : Schema) (r : Relationship) (key : ForeignKey) (a b : End) : Prop where
  owner : key.owner = a.entity
  column : ∃ f ∈ (model s.resolve a.entity).fields, f.RefersBy key.column
  reference : ∀ f ∈ (model s.resolve a.entity).fields, f.isArray = false → f.name = key.column → f.RefersBy key.column
  stored : (model s.resolve a.entity).arraysFor a.field = [] ∧ (model s.resolve a.entity).virtualsFor a.field = []
  looked : (model s.resolve b.entity).arraysFor b.field = [] ∧ (model s.resolve b.entity).virtualsFor b.field =
    [⟨b.field, a.entity.name, key.column, decide (r.kind = .oneToOne)⟩]

structure KeptInArray (s : Schema) (a b : End) : Prop where
  stored : (model s.resolve a.entity).arraysFor a.field = [.references a.field b.entity.name] ∧
    (model s.resolve a.entity).virtualsFor a.field = []
  looked : (model s.resolve b.entity).arraysFor b.field = [] ∧
    (model s.resolve b.entity).virtualsFor b.field = [⟨b.field, a.entity.name, a.field, false⟩]

def Kept (s : Schema) (r : Relationship) (a b : End) : Prop :=
  if r.kind = .manyToMany then KeptInArray s a b else ∃ key ∈ s.resolve.foreignKeys, KeptInColumn s r key a b

lemma column_mem_fields {e : Entity} {c : Column} {key? : Option ForeignKey} :
    .column c key? ∈ (model s.resolve e).fields ↔
      c ∈ s.resolve.storedColumns e ∧ key? = s.resolve.foreignKeyOn? e.index c.name := by
  have hnone : .column c key? ∉ (s.resolve.endsOf e.index).filterMap arrayField? := by
    intro h
    obtain ⟨x, -, hx⟩ := List.mem_filterMap.mp h
    exact Field.noConfusion (arrayField?_eq_some hx)
  rw [model, List.mem_append, or_iff_left hnone, columnFields_eq, Schema.keyedColumns_resolve]
  simp [eq_comm]

lemma keptInColumn (hab : s.Faces a b) (hba : s.Faces b a) (hkey : key ∈ s.resolve.foreignKeys) (h : a.Owns key b)
    (hkind : b.kind = r.kind) : KeptInColumn s r key a b := by
  obtain ⟨first, -, hfirst, -⟩ := Schema.foreignKeyOn?_of_mem (Schema.mem_foreignKeysOf.mpr ⟨hkey, rfl⟩)
  rw [h.table] at hfirst
  refine ⟨h.table, ?_, ?_, ?_, ?_⟩
  · obtain ⟨c, hc, hn⟩ := Schema.exists_mem_storedColumns hkey
    rw [h.table] at hc
    exact ⟨.column c (some first), column_mem_fields.mpr ⟨hc, hn ▸ hfirst.symm⟩, hn ▸ refersBy_column c first⟩
  · intro f hf harray hn
    cases f with
    | references name related => exact absurd harray.symm Bool.false_ne_true
    | column c key? =>
      obtain rfl := (column_mem_fields.mp hf).2
      rw [show c.name = key.column from hn, hfirst]
      exact hn ▸ refersBy_column c first
  · rw [arraysFor_model hab.mem, virtualsFor_model hab.mem]
    simp [arrayField?, virtual?, h.owner]
  · have hone : (b.cardinality == .one) = decide (r.kind = .oneToOne) := by
      rw [(Resolution.cardinality_of_mem_ends hba.mem).2 key h.inverse, hkind]
      cases r.kind <;> rfl
    rw [arraysFor_model hba.mem, virtualsFor_model hba.mem, ← hone, ← hba.related]
    simp [arrayField?, virtual?, h.inverse]

lemma keptInArray (hab : s.Faces a b) (hba : s.Faces b a) (ha : a.role = .junction j true)
    (hb : b.role = .junction j false) (hmany : b.cardinality = .many) : KeptInArray s a b := by
  constructor
  · rw [arraysFor_model hab.mem, virtualsFor_model hab.mem, ← hab.related]
    simp [arrayField?, virtual?, ha]
  · rw [arraysFor_model hba.mem, virtualsFor_model hba.mem, ← hba.related, ← hba.inverseField]
    simp [arrayField?, virtual?, hb, hmany]

lemma kept_of_pairs (p : s.Pairs k r a b) : Kept s r a b ∨ Kept s r b a := by
  obtain ⟨hab, hba⟩ := p.faces
  unfold Kept
  by_cases h : r.kind = .manyToMany
  · rw [if_pos h, if_pos h]
    obtain ⟨j, forward, -, ha, hb, hca, hcb⟩ := p.junction h
    cases forward with
    | true => exact .inl (keptInArray hab hba ha hb hcb)
    | false => exact .inr (keptInArray hba hab hb ha hca)
  · rw [if_neg h, if_neg h]
    obtain ⟨key, hk, -, -, ho | ho⟩ := p.key h
    · exact .inl ⟨key, List.mem_of_getElem? hk, keptInColumn hab hba (List.mem_of_getElem? hk) ho p.kinds.2⟩
    · exact .inr ⟨key, List.mem_of_getElem? hk, keptInColumn hba hab (List.mem_of_getElem? hk) ho p.kinds.1⟩

def Present (s : Schema) (v : Virtual) : Prop :=
  ∃ m ∈ models s.resolve, m.name = v.related ∧ ∃ f ∈ m.fields, f.name = v.foreignField

lemma models_resolve (s : Schema) : models s.resolve = s.entities.map (model s.resolve) := by
  rw [models, Schema.entities_resolve]

lemma Kept.present (h : Kept s r a b) (ha : a.entity ∈ s.entities) {v : Virtual}
    (hv : v ∈ (model s.resolve a.entity).virtualsFor a.field ∨ v ∈ (model s.resolve b.entity).virtualsFor b.field) :
    Present s v := by
  have hmodel : model s.resolve a.entity ∈ models s.resolve := models_resolve s ▸ List.mem_map_of_mem ha
  unfold Kept at h
  split at h
  · rw [h.stored.2, h.looked.2] at hv
    obtain rfl := List.mem_singleton.mp (hv.resolve_left List.not_mem_nil)
    have harray := h.stored.1 ▸ List.mem_cons_self
    exact ⟨_, hmodel, rfl, _, (List.mem_filter.mp harray).1, rfl⟩
  · obtain ⟨key, -, hc⟩ := h
    rw [hc.stored.2, hc.looked.2] at hv
    obtain rfl := List.mem_singleton.mp (hv.resolve_left List.not_mem_nil)
    obtain ⟨f, hf, href⟩ := hc.column
    exact ⟨_, hmodel, rfl, f, hf, href.name⟩

lemma present_of_mem_virtuals {e : Entity} {v : Virtual} (hv : v ∈ (model s.resolve e).virtuals) : Present s v := by
  obtain ⟨x, hx, hvx⟩ := List.mem_filterMap.mp hv
  have hx := (List.mem_filter.mp hx).1
  obtain ⟨k, r, rs, _, _, l, m, hends⟩ := Schema.exists_made_of_end hx
  have p := m.pairs
  have hv : v ∈ (model s.resolve x.entity).virtualsFor x.field := by
    rw [virtualsFor_model hx, hvx]
    exact List.mem_singleton_self v
  -- the virtual is that of one of the two ends, and either of them may be the one that stores the link
  have hside : v ∈ (model s.resolve (l.sourceEnd k).entity).virtualsFor (l.sourceEnd k).field ∨
      v ∈ (model s.resolve (l.targetEnd k).entity).virtualsFor (l.targetEnd k).field := by
    rcases hends with rfl | rfl
    · exact .inl hv
    · exact .inr hv
  rcases kept_of_pairs p with h | h
  · exact h.present p.source.mem hside
  · exact h.present p.target.mem hside.symm

inductive Virtual.Spells (schema : String) : Virtual → String → Prop
  | one (name related foreignField : String) : Spells schema ⟨name, related, foreignField, true⟩
      (schema ++ ".virtual('" ++ name ++ "', \x7b\n  " ++ ",\n  ".intercalate ["ref: '" ++ related ++ "'",
        "localField: '_id'", "foreignField: '" ++ foreignField ++ "'", "justOne: true"] ++ "\n\x7d);\n\n")
  | many (name related foreignField : String) : Spells schema ⟨name, related, foreignField, false⟩
      (schema ++ ".virtual('" ++ name ++ "', \x7b\n  " ++ ",\n  ".intercalate ["ref: '" ++ related ++ "'",
        "localField: '_id'", "foreignField: '" ++ foreignField ++ "'"] ++ "\n\x7d);\n\n")

def Model.Spells (m : Model) (text : String) : Prop :=
  ∃ lines virtuals, List.Forall₂ Field.Spells m.fields lines ∧
    List.Forall₂ (Virtual.Spells (schemaName m.name)) m.virtuals virtuals ∧ text = framed m.name lines virtuals

lemma Virtual.spells_render (schema : String) (v : Virtual) : v.Spells schema (v.render schema) := by
  rcases v with ⟨name, related, foreignField, _ | _⟩
  · exact .many name related foreignField
  · exact .one name related foreignField

lemma spells_model (r : Resolution) (e : Entity) :
    (model r e).Spells (framed e.name (lines r e) (virtuals r e)) := by
  refine ⟨_, _, ?_, ?_, rfl⟩
  · rw [lines, List.forall₂_map_right_iff, List.forall₂_same]
    exact fun f _ => f.spells_render
  · rw [virtuals, List.forall₂_map_right_iff, List.forall₂_same]
    exact fun v _ => v.spells_render _

theorem links_stored_once (s : Schema) :
    (∃ texts, List.Forall₂ Model.Spells (models s.resolve) texts ∧ (s.tables ≠ [] →
      s.generate .mongoose = Format.mongoose.comment (Format.mongoose.title s.name) ++ "\n\n" ++
        (above s.resolve ++ String.join texts ++ below s.resolve))) ∧
      models s.resolve = s.entities.map (model s.resolve) ∧
      (∀ k r, s.usable[k]? = some r → ∃ a b, s.Pairs k r a b ∧ (Kept s r a b ∨ Kept s r b a)) ∧
      ∀ m ∈ models s.resolve, ∀ v ∈ m.virtuals, Present s v := by
  refine ⟨⟨_, forall₂_map _ fun e => spells_model s.resolve e, ?_⟩, models_resolve s, ?_, ?_⟩
  · intro h
    rw [← code_framed]
    exact Schema.generate_of_opening h .mongoose rfl
  · intro k r h
    obtain ⟨rs, x, y, l, m⟩ := Schema.exists_made h
    exact ⟨_, _, m.pairs, kept_of_pairs m.pairs⟩
  · intro m hm v hv
    obtain ⟨e, -, rfl⟩ := List.mem_map.mp (models_resolve s ▸ hm)
    exact present_of_mem_virtuals hv

end Mongoose

end SchemaCode
