import Mathlib.Order.Monotone.Basic
import SchemaCode.Proofs.Redrawing.Code
import SchemaCode.Proofs.Redrawing.Drafts

namespace SchemaCode

lemma filterMap_entity?_filter (ts : List Table) (m n : Nat) :
    ((ts.filter (·.columns.isSome)).zipIdx m).filterMap (fun (t, i) => t.entity? i) =
      (((ts.zipIdx n).filterMap fun (t, i) => t.entity? i).zipIdx m).map fun (e, i) => { e with index := i } := by
  induction ts generalizing m n with
  | nil => rfl
  | cons t ts ih =>
    cases hc : t.columns with
    | none => simpa [hc, Table.entity?] using ih m (n + 1)
    | some columns => simpa [hc, Table.entity?] using ih (m + 1) (n + 1)

namespace Schema

def pruned (s : Schema) : Schema :=
  { s with tables := s.tables.filter (·.columns.isSome), relationships := s.usable }

def origin (s : Schema) (i : Nat) : Nat := (s.entities[i]?.map (·.index)).getD (s.tables.length + i)

lemma index_lt_length {s : Schema} {e : Entity} (h : e ∈ s.entities) : e.index < s.tables.length := by
  obtain ⟨t, ht, -⟩ := mem_entities.mp h
  exact (List.getElem?_eq_some_iff.mp ht).1

lemma strictMono_origin (s : Schema) : StrictMono s.origin := by
  intro i j hij
  rw [origin, origin]
  cases hj : s.entities[j]? with
  | none =>
    cases hi : s.entities[i]? with
    | none => exact Nat.add_lt_add_left hij _
    | some e =>
      have hlt := index_lt_length (List.mem_of_getElem? hi)
      exact Nat.lt_of_lt_of_le hlt (Nat.le_add_right _ _)
  | some e' =>
    obtain ⟨hlt, rfl⟩ := List.getElem?_eq_some_iff.mp hj
    rw [List.getElem?_eq_getElem (hij.trans hlt)]
    exact List.pairwise_iff_getElem.mp s.entities_sorted i j (hij.trans hlt) hlt hij

lemma entities_eq_renumber (s : Schema) :
    s.entities = s.pruned.entities.map (·.redraw (.moving s.origin s.strictMono_origin.injective)) := by
  have hpruned : s.pruned.entities = s.entities.zipIdx.map fun (e, i) => { e with index := i } :=
    filterMap_entity?_filter s.tables 0 0
  have horigin : ∀ p ∈ s.entities.zipIdx,
      Entity.redraw (.moving s.origin s.strictMono_origin.injective) { p.1 with index := p.2 } = p.1 := by
    rintro ⟨e, i⟩ hp
    have hi := List.mem_zipIdx_iff_getElem?.mp hp
    rw [Entity.redraw_moving, origin, hi]
    rfl
  rw [hpruned, List.map_map]
  exact (List.zipIdx_map_fst 0 s.entities).symm.trans (List.map_congr_left fun p hp => (horigin p hp).symm)

lemma renumbers_draftAfter (s : Schema) (rs : List Relationship) :
    (s.pruned.draftAfter (rs.filter s.uses)).Redraws (.moving s.origin s.strictMono_origin.injective)
      (s.draftAfter rs) := by
  induction rs using List.reverseRecOn with
  | nil => exact Draft.redraws_start s.entities_eq_renumber
  | append_singleton rs r ih =>
    rw [List.filter_append]
    by_cases hr : s.uses r = true
    · rw [List.filter_cons_of_pos hr, List.filter_nil, draftAfter_concat, draftAfter_concat]
      exact ih.add (fun _ _ _ => rfl) (ih.find? fun _ _ => id) (ih.find? fun _ _ => id)
    · rw [List.filter_cons_of_neg hr, List.filter_nil, List.append_nil]
      rcases draftAfter_cases rs r with ⟨hr', -⟩ | ⟨-, n, hn⟩
      · exact absurd hr' hr
      · exact hn ▸ ih.notices _ _

lemma resolve_eq_renumber {s : Schema} (h : ∃ t ∈ s.tables, t.columns.isSome = true) :
    s.resolve = s.pruned.resolve.redraw (.moving s.origin s.strictMono_origin.injective) := by
  obtain ⟨t, ht, hc⟩ := h
  have hdraft := s.renumbers_draftAfter s.relationships
  have htables : (!s.tables.isEmpty) = !s.pruned.tables.isEmpty := by
    have hpruned : t ∈ s.pruned.tables := List.mem_filter.mpr ⟨ht, hc⟩
    rw [List.isEmpty_eq_false_iff.mpr (List.ne_nil_of_mem ht),
      List.isEmpty_eq_false_iff.mpr (List.ne_nil_of_mem hpruned)]
  show Resolution.mk _ (s.draftAfter s.relationships).entities (s.draftAfter s.relationships).links
    (s.draftAfter s.relationships).junctions = _
  rw [htables, hdraft.entities, hdraft.links, hdraft.junctions]
  rfl

theorem generate_pruned (s : Schema) (h : ∃ t ∈ s.tables, t.columns.isSome = true) (f : Format) :
    s.generate f = s.pruned.generate f := by
  have htables : s.resolve.hasTables = s.pruned.resolve.hasTables := by rw [resolve_eq_renumber h]; rfl
  have hcode : f.code s.resolve = f.code s.pruned.resolve := by
    rw [resolve_eq_renumber h, f.code_renumber s.strictMono_origin.injective]
  rw [generate, generate, Format.body, Format.body, htables, hcode]
  rfl

def halfDrawn : Schema where
  tables := [
    { id := "a", name := "Person", columns := none },
    { id := "a", name := "User", columns := some [{ name := "id", type := .uuid, primary := true }] },
    { id := "n", name := "Note", columns := none },
    { id := "b", name := "Team", columns := some [{ name := "id", type := .uuid, primary := true }] }]
  relationships := [
    { source := "n", target := "b" },
    { source := "a", target := "b", declared := some .manyToOne },
    { source := "b", target := "x" }]

theorem generate_pruned_halfDrawn :
    (∃ t ∈ halfDrawn.tables, t.columns.isSome = true) ∧
      halfDrawn.pruned.tables.map (·.name) = ["User", "Team"] ∧
      halfDrawn.pruned.relationships = [{ source := "a", target := "b", declared := some .manyToOne }] ∧
      ∀ f, halfDrawn.generate f = halfDrawn.pruned.generate f := by
  have hfinished : ∃ t ∈ halfDrawn.tables, t.columns.isSome = true :=
    ⟨_, List.mem_of_getElem? (i := 1) rfl, rfl⟩
  exact ⟨hfinished, rfl, by decide, generate_pruned halfDrawn hfinished⟩

end Schema

end SchemaCode
