import SchemaCode.Edit
import SchemaCode.Generate
import SchemaCode.Proofs.Relation.Extension

namespace SchemaCode

def Edit.InReach (s : Schema) : Edit → Prop
  | .addTable .. | .addDraft .. | .relate _ | .reverseRelationships | .rename _ => True
  | .addColumn i _ | .renameTable i _ | .dropColumns i | .dropTable i => i < s.tables.length
  | .unrelate i => i < s.relationships.length

def Edit.Draws : Edit → Prop
  | .addDraft .. | .relate _ | .rename _ => True
  | _ => False

namespace Schema

variable {s s' : Schema} {e : Edit}

lemma isSome_modifyTable? {i : Nat} {change : Table → Table} :
    (s.modifyTable? i change).isSome = true ↔ i < s.tables.length := by
  rw [modifyTable?]
  split <;> simp [*]

theorem isSome_edit?_iff (s : Schema) (e : Edit) : (s.edit? e).isSome = true ↔ e.InReach s := by
  have hguard : ∀ (i n : Nat) (t : Schema), (if i < n then some t else none).isSome = true ↔ i < n := by
    intro i n t
    split <;> simp [*]
  cases e with
  | addColumn i c => exact isSome_modifyTable?
  | renameTable i name => exact isSome_modifyTable?
  | dropColumns i => exact isSome_modifyTable?
  | dropTable i => exact hguard _ _ _
  | unrelate i => exact hguard _ _ _
  | addTable id name columns => exact iff_of_true rfl trivial
  | addDraft id name => exact iff_of_true rfl trivial
  | relate r => exact iff_of_true rfl trivial
  | reverseRelationships => exact iff_of_true rfl trivial
  | rename name => exact iff_of_true rfl trivial

lemma entities_draft (s : Schema) (t : Table) (h : t.columns = none) :
    Schema.entities { s with tables := s.tables ++ [t] } = s.entities := by
  simp [entities, List.zipIdx_append, Table.entity?, h]

structure Grows (s s' : Schema) : Prop where
  entities : s'.entities = s.entities
  relationships : s.relationships <+: s'.relationships

lemma Grows.trans {t : Schema} (h : s.Grows s') (h' : s'.Grows t) : s.Grows t :=
  ⟨h'.entities.trans h.entities, h.relationships.trans h'.relationships⟩

lemma grows_edit? (he : e.Draws) (h : s.edit? e = some s') : s.Grows s' := by
  cases e with
  | addDraft id name =>
    obtain rfl := Option.some.inj h
    exact ⟨entities_draft s _ rfl, List.prefix_rfl⟩
  | relate r =>
    obtain rfl := Option.some.inj h
    exact ⟨rfl, List.prefix_append _ _⟩
  | rename name =>
    obtain rfl := Option.some.inj h
    exact ⟨rfl, List.prefix_rfl⟩
  | _ => exact he.elim

def edits? (s : Schema) (es : List Edit) : Option Schema := es.foldlM edit? s

lemma grows_edits? {es : List Edit} (he : ∀ e ∈ es, e.Draws) (h : s.edits? es = some s') : s.Grows s' := by
  induction es generalizing s with
  | nil =>
    obtain rfl := Option.some.inj h
    exact ⟨rfl, List.prefix_rfl⟩
  | cons e es ih =>
    rw [edits?, List.foldlM_cons, Option.bind_eq_bind, Option.bind_eq_some_iff] at h
    obtain ⟨t, ht, hrest⟩ := h
    exact (grows_edit? (he e List.mem_cons_self) ht).trans (ih (fun e h => he e (List.mem_cons_of_mem _ h)) hrest)

lemma Grows.extends (h : s.Grows s') : s.resolve.Extends s'.resolve := by
  have hdraft : s'.draft = s.draftAfter s'.relationships := by
    rw [draft, draftAfter, Draft.start, Draft.start, h.entities]
  obtain ⟨more, hmore⟩ := h.relationships
  obtain ⟨hlinks, hjunctions⟩ := prefix_draftAfter (s := s) s.relationships more
  rw [hmore, ← hdraft] at hlinks hjunctions
  have he : s'.resolve.entities = s.resolve.entities := by
    rw [entities_resolve, entities_resolve, h.entities]
  exact Resolution.extends_of_prefix he hlinks hjunctions

theorem extends_of_edits? {es : List Edit} (he : ∀ e ∈ es, e.Draws) (h : s.edits? es = some s') :
    s.resolve.Extends s'.resolve := (grows_edits? he h).extends

theorem generate_addDraft (h : s.tables ≠ []) {id name : String} (f : Format)
    (hs : s.edit? (.addDraft id name) = some s') : s'.generate f = s.generate f := by
  obtain rfl := Option.some.inj hs
  have hresolve : resolve { s with tables := s.tables ++ [{ id, name, columns := none }] } = s.resolve := by
    have hstart : Draft.start { s with tables := s.tables ++ [{ id, name, columns := none }] } = Draft.start s := by
      rw [Draft.start, Draft.start, entities_draft s _ rfl]
    rw [resolve, resolve, draft, draft, hstart, List.isEmpty_eq_false_iff.mpr h,
      List.isEmpty_eq_false_iff.mpr (List.append_ne_nil_of_left_ne_nil h _)]
  rw [generate, generate, hresolve]

end Schema

end SchemaCode
