import Mathlib.Data.List.Forall2
import Mathlib.Data.Set.Function
import SchemaCode.Proofs.Redrawing.Code
import SchemaCode.Proofs.Redrawing.Drafts

/-! The layout of a diagram, its ids and its advisory flags leave no trace in the code. -/

namespace SchemaCode

structure Table.Restates (rename : String → String) (t t' : Table) : Prop where
  id : t'.id = rename t.id
  name : t'.name = t.name
  columns : t'.columns.map (·.map (·.seen)) = t.columns.map (·.map (·.seen))

structure Relationship.Restates (rename : String → String) (r r' : Relationship) : Prop where
  source : r'.source = rename r.source
  target : r'.target = rename r.target
  sourceKey : r'.sourceKey = r.sourceKey
  targetKey : r'.targetKey = r.targetKey
  declared : r'.declared = r.declared
  through : r'.through = r.through

/-- `s'` is drawn as `s` is, up to layout, advisory flags and ids; the ids of tables are renamed. -/
structure Schema.Restates (rename : String → String) (s s' : Schema) : Prop where
  name : s'.name = s.name
  tables : List.Forall₂ (Table.Restates rename) s.tables s'.tables
  relationships : List.Forall₂ (Relationship.Restates rename) s.relationships s'.relationships

def Redrawing.bare (rename : String → String) : Redrawing := ⟨fun i => i, rename, fun _ => false, fun _ _ h => h⟩

variable {rename : String → String}

namespace Table

def bare (t : Table) : Table := { t with columns := t.columns.map (·.map (·.seen)) }

lemma Restates.entity?_bare {t t' : Table} (h : t.Restates rename t') (i : Nat) :
    t'.bare.entity? i = (t.entity? i).map (·.redraw (.bare rename)) := by
  rw [Table.entity?, Table.entity?, bare, h.columns, h.id, h.name, Option.map_map, Option.map_map]
  rfl

end Table

namespace Relationship

lemma Restates.link_eq {r r' : Relationship} (h : r.Restates rename r') (d : Draft) (a b : Entity) :
    d.link r' a b = d.link r a b := by
  rcases r with ⟨id, source, target, sourceKey, targetKey, declared, through⟩
  rcases r' with ⟨id', source', target', sourceKey', targetKey', declared', through'⟩
  obtain ⟨-, -, rfl, rfl, rfl, rfl⟩ := h
  rfl

lemma restates_self (r : Relationship) : r.Restates (fun x => x) r := ⟨rfl, rfl, rfl, rfl, rfl, rfl⟩

end Relationship

namespace Draft

variable {ρ : Redrawing}

lemma Redraws.foldl_add {d d' : Draft} {rs rs' : List Relationship} (h : d.Redraws ρ d')
    (hrs : List.Forall₂ (Relationship.Restates ρ.id) rs rs')
    (hid : ∀ r ∈ rs, ∀ e ∈ d.entities, (ρ.id e.id = ρ.id r.source → e.id = r.source) ∧
      (ρ.id e.id = ρ.id r.target → e.id = r.target)) :
    (rs.foldl Draft.add d).Redraws ρ (rs'.foldl Draft.add d') := by
  induction hrs generalizing d d' with
  | nil => exact h
  | cons hr _ ih =>
    obtain ⟨hfirst, hrest⟩ := List.forall_mem_cons.mp hid
    have hsource := h.find? fun e he => (hfirst e he).1
    have htarget := h.find? fun e he => (hfirst e he).2
    rw [← hr.source] at hsource
    rw [← hr.target] at htarget
    apply ih (h.add hr.link_eq hsource htarget)
    rw [entities_add]
    exact hrest

end Draft

namespace Schema

variable {s s' : Schema}

def ids (s : Schema) : List String := s.tables.map (·.id) ++ s.relationships.flatMap fun r => [r.source, r.target]

def bare (s : Schema) : Schema := { s with tables := s.tables.map (·.bare) }

lemma Restates.entities_bare (h : s.Restates rename s') :
    s'.bare.entities = s.entities.map (·.redraw (.bare rename)) := by
  -- the positions are counted from any start, for the induction on the two lists of tables
  have htables : ∀ n, ((s'.tables.map (·.bare)).zipIdx n).filterMap (fun p => p.1.entity? p.2) =
      ((s.tables.zipIdx n).filterMap fun p => p.1.entity? p.2).map (·.redraw (.bare rename)) := by
    have ht := h.tables
    generalize s.tables = ts at ht
    generalize s'.tables = ts' at ht
    induction ht with
    | nil => exact fun _ => rfl
    | cons ht _ ih =>
      intro n
      simp only [List.map_cons, List.zipIdx_cons, List.filterMap_cons, ht.entity?_bare, ih]
      cases Table.entity? _ n <;> rfl
  exact htables 0

lemma injOn_ids (hid : Set.InjOn rename {x | x ∈ s.ids}) {r : Relationship} (hr : r ∈ s.relationships) {e : Entity}
    (he : e ∈ s.entities) :
    (rename e.id = rename r.source → e.id = r.source) ∧ (rename e.id = rename r.target → e.id = r.target) := by
  obtain ⟨t, ht, hte, -⟩ := mem_entities.mp he
  have htable : e.id ∈ s.ids := by
    rw [hte]
    exact List.mem_append_left _ (List.mem_map_of_mem (List.mem_of_getElem? ht))
  have hends : r.source ∈ s.ids ∧ r.target ∈ s.ids :=
    ⟨List.mem_append_right _ (List.mem_flatMap.mpr ⟨r, hr, by simp⟩),
      List.mem_append_right _ (List.mem_flatMap.mpr ⟨r, hr, by simp⟩)⟩
  exact ⟨fun h => hid htable hends.1 h, fun h => hid htable hends.2 h⟩

lemma Restates.resolve_bare (h : s.Restates rename s') (hid : Set.InjOn rename {x | x ∈ s.ids}) :
    s'.bare.resolve = s.resolve.redraw (.bare rename) := by
  have hdraft : s.draft.Redraws (.bare rename) s'.bare.draft :=
    (Draft.redraws_start h.entities_bare).foldl_add h.relationships fun r hr e he => injOn_ids hid hr he
  have hempty : s'.tables.isEmpty = s.tables.isEmpty := by
    rw [Bool.eq_iff_iff, List.isEmpty_iff_length_eq_zero, List.isEmpty_iff_length_eq_zero, h.tables.length_eq]
  have htables : (!s'.bare.tables.isEmpty) = !s.tables.isEmpty := by rw [bare, List.isEmpty_map, hempty]
  rw [Schema.resolve, Draft.resolution, htables, hdraft.entities, hdraft.links, hdraft.junctions]
  rfl

lemma restates_self (s : Schema) : s.Restates (fun x => x) s where
  name := rfl
  tables := List.forall₂_same.mpr fun _ _ => ⟨rfl, rfl, rfl⟩
  relationships := List.forall₂_same.mpr fun r _ => r.restates_self

lemma Restates.generate_bare (h : s.Restates rename s') (hid : Set.InjOn rename {x | x ∈ s.ids}) (f : Format) :
    s'.bare.generate f = s.generate f := by
  have hname : s'.bare.name = s.name := h.name
  have hresolve := h.resolve_bare hid
  apply generate_congr hname
  · rw [hresolve]
    rfl
  · rw [hresolve, f.code_redraw]

theorem generate_restated (h : s.Restates rename s') (hid : Set.InjOn rename {x | x ∈ s.ids}) (f : Format) :
    s.generate f = s'.generate f := by
  rw [← h.generate_bare hid, s'.restates_self.generate_bare fun _ _ _ _ he => he]

def sketch : Schema where
  tables := [
    { id := "a", name := "User", columns := some [{ name := "id", type := .uuid, primary := true },
      { name := "team", type := .uuid, foreign := true }] },
    { id := "b", name := "Team", x := 320, columns := some [{ name := "id", type := .uuid, primary := true }] },
    { id := "a", name := "Note", columns := none }]
  relationships := [
    { id := "r", source := "a", target := "b", sourceKey := "team", declared := some .manyToOne },
    { source := "b", target := "c" }]

def fairCopy : Schema where
  tables := [
    { id := "t-a", name := "User", x := 80, y := 40, columns := some [
      { name := "id", type := .uuid, primary := true, foreign := true }, { name := "team", type := .uuid }] },
    { id := "t-b", name := "Team", x := 480, y := 40, columns := some [
      { name := "id", type := .uuid, primary := true }] },
    { id := "t-a", name := "Note", columns := none }]
  relationships := [
    { source := "t-a", target := "t-b", sourceKey := "team", declared := some .manyToOne },
    { id := "q", source := "t-b", target := "t-c" }]

theorem generate_restated_fairCopy :
    sketch.Restates ("t-" ++ ·) fairCopy ∧ Set.InjOn ("t-" ++ ·) {x | x ∈ sketch.ids} ∧
      ∀ f, sketch.generate f = fairCopy.generate f := by
  have hrestates : sketch.Restates ("t-" ++ ·) fairCopy := by
    refine ⟨rfl, ?_, ?_⟩
    · exact .cons ⟨rfl, rfl, rfl⟩ (.cons ⟨rfl, rfl, rfl⟩ (.cons ⟨rfl, rfl, rfl⟩ .nil))
    · exact .cons ⟨rfl, rfl, rfl, rfl, rfl, rfl⟩ (.cons ⟨rfl, rfl, rfl, rfl, rfl, rfl⟩ .nil)
  have hid : Set.InjOn ("t-" ++ ·) {x | x ∈ sketch.ids} := fun _ _ _ _ h => (String.append_right_inj _).mp h
  exact ⟨hrestates, hid, generate_restated hrestates hid⟩

end Schema

end SchemaCode
