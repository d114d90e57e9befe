import SchemaCode.Proofs.Relation.Junctions
import SchemaCode.Proofs.Sql.Statements
import SchemaCode.Proofs.Relation.DependencyOrder
import SchemaCode.Proofs.Text.Folding

/-! The names of the tables that are created, read without regard to capitals. -/

namespace SchemaCode

open Text (lower)

lemma Names.Freshens.lower_eq_self_iff {taken : String → Prop} {base name : String}
    (h : Names.Freshens taken base name) : lower name = name ↔ lower base = base := by
  rcases h with ⟨-, rfl⟩ | ⟨-, n, -, rfl, -⟩
  · exact .rfl
  · rw [Names.numbered, Text.lower_append_eq_self_iff]
    exact and_iff_left (Text.lower_toString n)

lemma lower_lowerName (e : Entity) : lower e.lowerName = e.lowerName := Text.lower_lower e.name

namespace Schema

variable {s : Schema} {j j' : Junction}

lemma exists_allocated (h : j ∈ s.resolve.junctions) : ∃ i, s.Allocated i j := by
  obtain ⟨i, hi⟩ := List.mem_iff_getElem?.mp h
  exact ⟨i, allocated_of_getElem? hi⟩

lemma lower_name_iff (h : j ∈ s.resolve.junctions) : lower j.name = j.name ↔ lower j.key = j.key := by
  obtain ⟨i, hi⟩ := exists_allocated h
  exact hi.name.lower_eq_self_iff

lemma Allocated.name_eq_key (h : s.Allocated 0 j) (hfree : ∀ e ∈ s.entities, e.lowerName ≠ j.key) :
    j.name = j.key := by
  rcases h.name with ⟨-, hname⟩ | ⟨⟨e, he, hlow⟩ | ⟨j', hj', -⟩, -⟩
  · exact hname
  · exact absurd hlow (hfree e he)
  · exact absurd hj' List.not_mem_nil

lemma exists_through_of_lower_ne (h : j ∈ s.resolve.junctions) (hj : lower j.key ≠ j.key) :
    ∃ r ∈ s.usable, r.kind = .manyToMany ∧ r.through = some j.key := by
  obtain ⟨i, hi⟩ := List.mem_iff_getElem?.mp h
  obtain ⟨rs, r, a, b, hf⟩ := exists_founds hi
  have hr : r ∈ s.usable := by
    refine List.mem_filter.mpr ⟨hf.precedes.subset (List.mem_append_right _ List.mem_cons_self), ?_⟩
    exact uses_iff.mpr ⟨⟨a, hf.source⟩, b, hf.target⟩
  refine ⟨r, hr, hf.kind, ?_⟩
  have hkey := hf.key_eq
  unfold Relationship.junctionKey at hkey
  cases hname : r.junctionName? with
  | some name =>
    rw [hname, Option.getD_some] at hkey
    exact hkey ▸ (Option.filter_eq_some_iff.mp hname).1
  | none =>
    rw [hname, Option.getD_none] at hkey
    refine absurd ?_ hj
    rw [hkey, Text.lower_append_eq_self_iff, Text.lower_append_eq_self_iff]
    exact ⟨⟨lower_lowerName a, by rfl⟩, lower_lowerName b⟩

end Schema

namespace Sql

def Statement.creates? : Statement → Option String
  | .createTable e _ _ => some e.lowerName
  | .createJunction j => some j.name
  | .addConstraint _ => none

def createdNames (r : Resolution) : List String := (statements r).filterMap (·.creates?)

lemma Statement.render_of_creates {st : Statement} {name : String} (h : st.creates? = some name) :
    ∃ lines, st.render = createStatement name lines := by
  cases st with
  | createTable e columns constraints =>
    obtain rfl := Option.some.inj h
    exact ⟨_, rfl⟩
  | createJunction j =>
    obtain rfl := Option.some.inj h
    exact ⟨_, rfl⟩
  | addConstraint c => exact absurd h (Option.some_ne_none name).symm

lemma filterMap_creates_createTables (r : Resolution) (created : List Nat) (rest : List Entity) :
    (createTables r created rest).1.filterMap (·.creates?) = rest.map (·.lowerName) := by
  induction rest generalizing created with
  | nil => rfl
  | cons e rest ih =>
    rw [createTables_cons, List.filterMap_cons, ih]
    rfl

lemma createdNames_eq (r : Resolution) :
    createdNames r = r.dependencyOrder.map (·.lowerName) ++ r.junctions.map (·.name) := by
  rw [createdNames, statements_eq, List.filterMap_append, List.filterMap_append, filterMap_creates_createTables]
  have hjunctions : (r.junctions.map Statement.createJunction).filterMap (·.creates?) = r.junctions.map (·.name) := by
    simp [List.filterMap_map, Statement.creates?]
  have hwaiting : ∀ cs : List Constraint, (cs.map Statement.addConstraint).filterMap (·.creates?) = [] := by
    intro cs
    simp [List.filterMap_map, Statement.creates?]
  rw [hjunctions, hwaiting, List.append_nil]

lemma nodup_folded_iff {s : Schema} (h : (s.entities.map (·.lowerName)).Nodup) :
    ((createdNames s.resolve).map lower).Nodup ↔ (s.resolve.junctions.map fun j => lower j.name).Nodup ∧
      ∀ j ∈ s.resolve.junctions, ∀ e ∈ s.entities, lower j.name ≠ e.lowerName := by
  have htables : (s.resolve.dependencyOrder.map (·.lowerName)).Nodup := by
    refine (List.Perm.nodup_iff (.map _ ?_)).mpr h
    exact Schema.entities_resolve ▸ Resolution.perm_dependencyOrder s.sorted_resolve
  rw [createdNames_eq, List.map_append, List.map_map, List.map_map]
  simp only [Function.comp_def, lower_lowerName]
  rw [List.nodup_append]
  constructor
  · rintro ⟨-, hjunctions, hdisjoint⟩
    refine ⟨hjunctions, fun j hj e he => (hdisjoint _ ?_ _ ?_).symm⟩
    · exact List.mem_map_of_mem (Schema.mem_dependencyOrder_resolve.mpr he)
    · exact List.mem_map_of_mem (f := fun j : Junction => lower j.name) hj
  · rintro ⟨hjunctions, hdisjoint⟩
    refine ⟨htables, hjunctions, ?_⟩
    intro x hx y hy
    obtain ⟨e, he, rfl⟩ := List.mem_map.mp hx
    obtain ⟨j, hj, rfl⟩ := List.mem_map.mp hy
    exact (hdisjoint j hj e (Schema.mem_dependencyOrder_resolve.mp he)).symm

/-- If no two tables of a schema are called alike, then no two that are created are, capitals set aside, unless a
relationship asks for a junction by a name with capitals that reads like a table or like another junction. -/
theorem createdNames_nodup_iff (s : Schema) (h : (s.entities.map (·.lowerName)).Nodup) :
    (∀ st ∈ statements s.resolve, ∀ name, st.creates? = some name →
        ∃ lines, st.render = createStatement name lines) ∧
      (((createdNames s.resolve).map lower).Nodup ↔
        ∀ j ∈ s.resolve.junctions, lower j.key ≠ j.key →
          (∀ e ∈ s.entities, lower j.name ≠ e.lowerName) ∧
            ∀ j' ∈ s.resolve.junctions, j' ≠ j → lower j'.name ≠ lower j.name) ∧
      ∀ j ∈ s.resolve.junctions, lower j.key ≠ j.key →
        ∃ r ∈ s.usable, r.kind = .manyToMany ∧ r.through = some j.key := by
  refine ⟨fun st _ name => Statement.render_of_creates, ?_, fun j => Schema.exists_through_of_lower_ne⟩
  rw [nodup_folded_iff h]
  constructor
  · rintro ⟨hjunctions, htables⟩ j hj -
    refine ⟨htables j hj, fun j' hj' hne he => hne ?_⟩
    exact List.inj_on_of_nodup_map hjunctions hj' hj he
  · intro hcapitals
    constructor
    · refine List.pairwise_map.mpr ((Schema.junctions_pairwise_ne s).imp_of_mem ?_)
      rintro j j' hj hj' ⟨-, hname⟩ he
      -- either of the two names may be the one with capitals
      by_cases hlow : lower j.key = j.key
      · by_cases hlow' : lower j'.key = j'.key
        · rw [(Schema.lower_name_iff hj).mpr hlow, (Schema.lower_name_iff hj').mpr hlow'] at he
          exact hname he
        · exact (hcapitals j' hj' hlow').2 j hj (fun heq => hname (congrArg _ heq)) he
      · exact (hcapitals j hj hlow).2 j' hj' (fun heq => hname (congrArg _ heq.symm)) he.symm
    · intro j hj e he
      by_cases hlow : lower j.key = j.key
      · rw [(Schema.lower_name_iff hj).mpr hlow]
        obtain ⟨i, hi⟩ := Schema.exists_allocated hj
        exact fun hname => hi.name.not_taken (.inl ⟨e, he, hname.symm⟩)
      · exact (hcapitals j hj hlow).1 e he

def capitalJunction : Schema where
  tables := [
    { id := "a", name := "User", columns := some [{ name := "id", type := .uuid, primary := true }] },
    { id := "b", name := "Team", columns := some [{ name := "id", type := .uuid, primary := true }] }]
  relationships := [{ source := "a", target := "b", declared := some .manyToMany, through := some "USER" }]

theorem createdNames_nodup_iff_capitalJunction :
    (capitalJunction.entities.map (·.lowerName)).Nodup ∧
      (∀ st ∈ statements capitalJunction.resolve, ∀ name, st.creates? = some name →
        ∃ lines, st.render = createStatement name lines) ∧
      (((createdNames capitalJunction.resolve).map lower).Nodup ↔
        ∀ j ∈ capitalJunction.resolve.junctions, lower j.key ≠ j.key →
          (∀ e ∈ capitalJunction.entities, lower j.name ≠ e.lowerName) ∧
            ∀ j' ∈ capitalJunction.resolve.junctions, j' ≠ j → lower j'.name ≠ lower j.name) ∧
      ∀ j ∈ capitalJunction.resolve.junctions, lower j.key ≠ j.key →
        ∃ r ∈ capitalJunction.usable, r.kind = .manyToMany ∧ r.through = some j.key := by
  have h : (capitalJunction.entities.map (·.lowerName)).Nodup := by decide
  exact ⟨h, createdNames_nodup_iff capitalJunction h⟩

theorem capitalJunction_names_clash :
    (capitalJunction.entities.map (·.lowerName)).Nodup ∧ "user" ∈ createdNames capitalJunction.resolve ∧
      "USER" ∈ createdNames capitalJunction.resolve ∧ ¬ ((createdNames capitalJunction.resolve).map lower).Nodup := by
  have h : (capitalJunction.entities.map (·.lowerName)).Nodup := by decide
  obtain ⟨rs, a, b, l, m⟩ := Schema.exists_made (s := capitalJunction) (k := 0) rfl
  obtain ⟨j', -, hj'⟩ := m.exists_junction rfl
  have hpos := List.length_pos_of_mem (List.mem_of_find?_eq_some hj')
  obtain ⟨j, hj⟩ : ∃ j, capitalJunction.resolve.junctions[0]? = some j := ⟨_, List.getElem?_eq_getElem hpos⟩
  have hmem := List.mem_of_getElem? hj
  have hkey : j.key = "USER" := by
    obtain ⟨rs, r, a, b, hf⟩ := Schema.exists_founds hj
    have hr := hf.precedes.subset (List.mem_append_right rs List.mem_cons_self)
    obtain rfl := List.mem_singleton.mp hr
    exact hf.key_eq
  have hname : j.name = "USER" := by
    rw [← hkey]
    apply (Schema.allocated_of_getElem? hj).name_eq_key
    rw [hkey]
    decide
  have htable : "user" ∈ capitalJunction.entities.map (·.lowerName) := by decide
  obtain ⟨e, he, hlow⟩ := List.mem_map.mp htable
  refine ⟨h, ?_, ?_, ?_⟩
  · rw [createdNames_eq, ← hlow]
    exact List.mem_append_left _ (List.mem_map_of_mem (Schema.mem_dependencyOrder_resolve.mpr he))
  · rw [createdNames_eq, ← hname]
    exact List.mem_append_right _ (List.mem_map_of_mem hmem)
  · rw [nodup_folded_iff h]
    intro hdistinct
    refine hdistinct.2 j hmem e he ?_
    rw [hname, hlow]
    rfl

end Sql

end SchemaCode
