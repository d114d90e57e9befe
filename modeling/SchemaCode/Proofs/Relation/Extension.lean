import SchemaCode.Proofs.Relation.Flags

namespace SchemaCode

structure Column.Gains (c c' : Column) : Prop where
  name : c'.name = c.name
  type : c'.type = c.type
  primary : c'.primary = c.primary
  foreign : c.foreign = true → c'.foreign = true
  unique : c.unique = true → c'.unique = true

namespace Resolution

structure Extends (r r' : Resolution) : Prop where
  entities : r'.entities = r.entities
  ends : r.ends <+: r'.ends
  foreignKeys : r.foreignKeys <+: r'.foreignKeys
  junctions : r.junctions <+: r'.junctions
  columns : ∀ t, List.Forall₂ Column.Gains (r.columnsAt t) (r'.columnsAt t)
  added : ∀ t, r.addedColumnsOf t <+: r'.addedColumnsOf t

variable {r r' : Resolution} {keys keys' : List ForeignKey}

lemma gains_flag (h : keys ⊆ keys') (c : Column) : (flag keys c).Gains (flag keys' c) where
  name := rfl
  type := rfl
  primary := rfl
  foreign := by
    simp only [foreign_flag_iff]
    exact Or.imp_right fun ⟨key, hkey, hc⟩ => ⟨key, h hkey, hc⟩
  unique := by
    simp only [unique_flag_iff]
    exact Or.imp_right fun ⟨key, hkey, hc⟩ => ⟨key, h hkey, hc⟩

lemma prefix_ends (h : r.links <+: r'.links) : r.ends <+: r'.ends := by
  obtain ⟨more, hmore⟩ := h
  rw [ends, ends, ← hmore, List.zipIdx_append, List.flatMap_append]
  exact List.prefix_append _ _

lemma prefix_foreignKeysOf (h : r.links <+: r'.links) (t : Nat) : r.foreignKeysOf t <+: r'.foreignKeysOf t :=
  (h.filterMap _).filter _

lemma gains_columnsAt (he : r'.entities = r.entities) (h : r.links <+: r'.links) (t : Nat) :
    List.Forall₂ Column.Gains (r.columnsAt t) (r'.columnsAt t) := by
  unfold columnsAt
  rw [he]
  cases r.entities.find? (·.index == t) with
  | none => exact .nil
  | some e =>
    simp only [columnsOf, List.forall₂_map_left_iff, List.forall₂_map_right_iff, List.forall₂_same]
    exact fun c _ => gains_flag (prefix_foreignKeysOf h e.index).subset c

lemma extends_of_prefix (he : r'.entities = r.entities) (hl : r.links <+: r'.links)
    (hj : r.junctions <+: r'.junctions) : r.Extends r' where
  entities := he
  ends := prefix_ends hl
  foreignKeys := hl.filterMap _
  junctions := hj
  columns := gains_columnsAt he hl
  added t := ((prefix_foreignKeysOf hl t).filter _).map _

end Resolution

namespace Schema

def adding (s : Schema) (more : List Relationship) : Schema :=
  { s with relationships := s.relationships ++ more }

lemma draft_adding (s : Schema) (more : List Relationship) :
    (s.adding more).draft = s.draftAfter (s.relationships ++ more) := rfl

theorem resolve_extends (s : Schema) (more : List Relationship) : s.resolve.Extends (s.adding more).resolve := by
  obtain ⟨hlinks, hjunctions⟩ := prefix_draftAfter (s := s) s.relationships more
  rw [← draft_adding] at hlinks hjunctions
  have he : (s.adding more).resolve.entities = s.resolve.entities := by
    rw [entities_resolve, entities_resolve]
    rfl
  exact Resolution.extends_of_prefix he hlinks hjunctions

end Schema

end SchemaCode
