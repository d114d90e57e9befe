import SchemaCode.Proofs.Sql.CreationOrder

/-! Which foreign keys have to wait until all tables are there. -/

namespace SchemaCode.Sql

open Relation (ReflTransGen)

variable {s : Schema} {key : ForeignKey}

def Deferred (s : Schema) (key : ForeignKey) : Prop :=
  ∃ c, .addConstraint c ∈ statements s.resolve ∧ c.content = (constraint key).content

def Inline (s : Schema) (key : ForeignKey) : Prop :=
  ∃ columns constraints, .createTable key.owner columns constraints ∈ statements s.resolve ∧
    ∃ c ∈ constraints, c.content = (constraint key).content

lemma entities_eq_of_content (h : key ∈ s.resolve.foreignKeys) {c : Constraint}
    (hc : c.owner ∈ s.entities ∧ c.referenced ∈ s.entities) (he : c.content = (constraint key).content) :
    c.owner = key.owner ∧ c.referenced = key.referenced :=
  ⟨Schema.eq_of_index_eq hc.1 (Schema.owner_mem_entities h) (congrArg Prod.fst he),
    Schema.eq_of_index_eq hc.2 (Schema.referenced_mem_entities h) (congrArg (·.2.2.1) he)⟩

lemma addConstraint_mem_iff_before {c : Constraint} : .addConstraint c ∈ statements s.resolve ↔
    c ∈ constraintsOf s.resolve c.owner.index ∧ s.resolve.Before c.owner c.referenced := by
  rw [addConstraint_mem_statements, mem_deferred_iff]
  constructor
  · rintro ⟨earlier, e, later, horder, hc, -, hne, hearlier⟩
    obtain ⟨howner, hreferenced⟩ := entities_of_mem_constraintsOf hc
    have he : e ∈ s.entities := by
      rw [← Schema.mem_dependencyOrder_resolve, horder]
      exact List.mem_append_right _ List.mem_cons_self
    obtain rfl := Schema.eq_of_index_eq howner he (owner_of_mem_constraintsOf hc)
    refine ⟨hc, (Resolution.before_total hne.symm).resolve_right ?_⟩
    rw [← Resolution.mem_earlier_iff s.sorted_resolve horder (Schema.entities_resolve ▸ hreferenced)]
    exact fun hmem => hearlier (List.mem_map_of_mem hmem)
  · rintro ⟨hc, hbefore⟩
    obtain ⟨howner, hreferenced⟩ := entities_of_mem_constraintsOf hc
    obtain ⟨earlier, later, horder⟩ := List.append_of_mem (Schema.mem_dependencyOrder_resolve.mpr howner)
    refine ⟨earlier, c.owner, later, horder, hc, List.not_mem_nil, ?_, ?_⟩
    · intro he
      rw [Schema.eq_of_index_eq hreferenced howner he] at hbefore
      exact hbefore.asymm hbefore
    · intro hmem
      obtain ⟨e, he, hi⟩ := List.mem_map.mp hmem
      have he' : e ∈ s.entities := by
        rw [← Schema.mem_dependencyOrder_resolve, horder]
        exact List.mem_append_left _ he
      obtain rfl := Schema.eq_of_index_eq he' hreferenced hi
      have hafter := (Resolution.mem_earlier_iff s.sorted_resolve horder (Schema.entities_resolve ▸ he')).mp he
      exact hbefore.asymm hafter

lemma deferred_iff_before (h : key ∈ s.resolve.foreignKeys) :
    Deferred s key ↔ s.resolve.Before key.owner key.referenced := by
  simp only [Deferred, addConstraint_mem_iff_before]
  constructor
  · rintro ⟨c, ⟨hc, hbefore⟩, hcontent⟩
    obtain ⟨howner, hreferenced⟩ := entities_eq_of_content h (entities_of_mem_constraintsOf hc) hcontent
    rwa [howner, hreferenced] at hbefore
  · intro hbefore
    have hkey : key ∈ s.resolve.foreignKeysOf key.owner.index := Schema.mem_foreignKeysOf.mpr ⟨h, rfl⟩
    obtain ⟨c, hc, hcontent⟩ := List.mem_map.mp ((constraintsOf_alike _ _).2.2 key hkey)
    obtain ⟨howner, hreferenced⟩ := entities_eq_of_content h (entities_of_mem_constraintsOf hc) hcontent
    refine ⟨c, ⟨?_, ?_⟩, hcontent⟩
    · rwa [howner]
    · rwa [howner, hreferenced]

lemma before_iff (h : key ∈ s.resolve.foreignKeys) : s.resolve.Before key.owner key.referenced ↔
    key.owner.index < key.referenced.index ∧ s.resolve.LeadsToCycle key.referenced.index := by
  by_cases hne : key.owner.index = key.referenced.index
  · rw [Schema.eq_of_index_eq (Schema.owner_mem_entities h) (Schema.referenced_mem_entities h) hne]
    constructor
    · exact fun hbefore => absurd hbefore hbefore.asymm
    · exact fun hlt => absurd hlt.1 (Nat.lt_irrefl _)
  · exact Resolution.owner_before_iff s.closed_resolve h hne

lemma inline_iff_not_deferred (h : key ∈ s.resolve.foreignKeys) : Inline s key ↔ ¬ Deferred s key := by
  constructor
  · rintro ⟨columns, constraints, hst, c, hc, hcontent⟩ ⟨c', hst', hcontent'⟩
    -- two statements share no clause, and these two are of different kinds
    have hnodup := nodup_contents s
    rw [List.map_flatMap, List.nodup_flatMap] at hnodup
    have hsymm : Std.Symm (Function.onFun List.Disjoint fun st : Statement => st.clauses.map (·.content)) :=
      ⟨fun _ _ h => h.symm⟩
    have hdisjoint := hnodup.2.forall hst hst' Statement.noConfusion
    apply hdisjoint (List.mem_map_of_mem hc)
    exact List.mem_singleton.mpr (hcontent.trans hcontent'.symm)
  · intro hnot
    obtain ⟨c, hc, hcontent⟩ := List.mem_map.mp (content_mem_clauses h)
    have howner := (entities_eq_of_content h (entities_of_mem_clauses hc) hcontent).1
    obtain ⟨st, hst, hc⟩ := List.mem_flatMap.mp hc
    cases st with
    | createTable e columns constraints =>
      obtain rfl : key.owner = e := howner.symm.trans (owner_eq_of_mem hst hc)
      exact ⟨columns, constraints, hst, c, hc, hcontent⟩
    | createJunction j => exact absurd hc List.not_mem_nil
    | addConstraint c' =>
      obtain rfl := List.mem_singleton.mp hc
      exact absurd ⟨c, hst, hcontent⟩ hnot

lemma inline_iff_precedes (h : key ∈ s.resolve.foreignKeys) : Inline s key ↔
    key.referenced = key.owner ∨ [key.referenced, key.owner].Sublist s.resolve.dependencyOrder := by
  have howner := Schema.owner_mem_entities h
  have hreferenced := Schema.referenced_mem_entities h
  rw [inline_iff_not_deferred h, deferred_iff_before h, Resolution.sublist_dependencyOrder_iff s.sorted_resolve
    (Schema.entities_resolve ▸ hreferenced) (Schema.entities_resolve ▸ howner)]
  constructor
  · intro hnot
    by_cases hi : key.owner.index = key.referenced.index
    · exact .inl (Schema.eq_of_index_eq hreferenced howner hi.symm)
    · exact .inr ((Resolution.before_total hi).resolve_left hnot)
  · rintro (he | hbefore)
    · rw [he]
      exact fun hself => hself.asymm hself
    · exact hbefore.asymm

/-- A key waits just if its owner comes first in the schema and references lead from the referenced table to a
cycle. Every other key is part of the statement that creates its owner, and then the referenced table is the
owner or stands before it in dependency order. -/
theorem deferred_iff (s : Schema) {key : ForeignKey} (h : key ∈ s.resolve.foreignKeys) :
    (Deferred s key ↔
        key.owner.index < key.referenced.index ∧ s.resolve.LeadsToCycle key.referenced.index) ∧
      (Inline s key ↔ ¬ Deferred s key) ∧
      (Inline s key ↔
        key.referenced = key.owner ∨ [key.referenced, key.owner].Sublist s.resolve.dependencyOrder) :=
  ⟨(deferred_iff_before h).trans (before_iff h), inline_iff_not_deferred h, inline_iff_precedes h⟩

def aheadOfCycle : Schema where
  tables := [
    { id := "a", name := "Post", columns := some [{ name := "id", type := .uuid, primary := true }] },
    { id := "b", name := "User", columns := some [{ name := "id", type := .uuid, primary := true }] },
    { id := "c", name := "Team", columns := some [{ name := "id", type := .uuid, primary := true }] }]
  relationships := [
    { source := "a", target := "b", declared := some .manyToOne },
    { source := "b", target := "c", declared := some .manyToOne },
    { source := "c", target := "b", declared := some .manyToOne }]

theorem deferred_iff_aheadOfCycle :
    ∃ key ∈ aheadOfCycle.resolve.foreignKeys,
      (Deferred aheadOfCycle key ↔ key.owner.index < key.referenced.index ∧
          aheadOfCycle.resolve.LeadsToCycle key.referenced.index) ∧
        (Inline aheadOfCycle key ↔ ¬ Deferred aheadOfCycle key) ∧
        (Inline aheadOfCycle key ↔ key.referenced = key.owner ∨
          [key.referenced, key.owner].Sublist aheadOfCycle.resolve.dependencyOrder) :=
  ⟨_, List.mem_of_getElem? (i := 0) rfl, deferred_iff aheadOfCycle (List.mem_of_getElem? (i := 0) rfl)⟩

theorem aheadOfCycle_deferred :
    ∃ key ∈ aheadOfCycle.resolve.foreignKeys, key.owner.index ≠ key.referenced.index ∧
      Deferred aheadOfCycle key ∧
      ¬ ReflTransGen aheadOfCycle.resolve.Refers key.referenced.index key.owner.index := by
  have hback : aheadOfCycle.resolve.Refers 2 1 := ⟨by decide, _, List.mem_of_getElem? (i := 2) rfl, rfl, rfl⟩
  have hforth : aheadOfCycle.resolve.Refers 1 2 := ⟨by decide, _, List.mem_of_getElem? (i := 1) rfl, rfl, rfl⟩
  have hkey := List.mem_of_getElem? (l := aheadOfCycle.resolve.foreignKeys) (i := 0) rfl
  refine ⟨_, hkey, ?_, ?_, ?_⟩
  · show (0 : Nat) ≠ 1
    decide
  · rw [deferred_iff_before hkey, before_iff hkey]
    exact ⟨Nat.zero_lt_one, 1, .refl, .tail (.single hforth) hback⟩
  · intro hpath
    obtain he | ⟨b, -, -, key, hmem, -, hi⟩ := Relation.ReflTransGen.cases_tail hpath
    · exact absurd he (by decide)
    · have hreferenced : aheadOfCycle.resolve.foreignKeys.map (·.referenced.index) = [1, 2, 1] := rfl
      have hzero := List.mem_map_of_mem (f := fun k : ForeignKey => k.referenced.index) hmem
      rw [hreferenced, hi] at hzero
      exact absurd hzero (by decide)

end SchemaCode.Sql
