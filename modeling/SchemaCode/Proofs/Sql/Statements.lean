import Mathlib.Data.List.Nodup
import SchemaCode.Code.Sql

namespace SchemaCode

lemma eraseDupsBy_alike {α β : Type} {same : α → α → Bool} {f : α → β} {xs : List α}
    (h : ∀ a ∈ xs, ∀ b ∈ xs, same a b = true ↔ f a = f b) :
    xs.eraseDupsBy same ⊆ xs ∧ ((xs.eraseDupsBy same).map f).Nodup ∧
      ∀ a ∈ xs, f a ∈ (xs.eraseDupsBy same).map f := by
  induction hn : xs.length using Nat.strongRecOn generalizing xs with
  | _ n ih =>
    cases xs with
    | nil => simp
    | cons a xs =>
      have hrest : ∀ b, b ∈ xs.filter (fun b => decide (same b a = false)) ↔ b ∈ xs ∧ f b ≠ f a := by
        intro b
        rw [List.mem_filter, decide_eq_true_eq, ← Bool.not_eq_true]
        exact and_congr_right fun hb => not_congr (h b (List.mem_cons_of_mem a hb) a List.mem_cons_self)
      obtain ⟨hsub, hnodup, hmem⟩ := ih _ (by
        rw [← hn]
        exact Nat.lt_succ_of_le (List.length_filter_le _ xs)) (fun b hb c hc =>
          h b (List.mem_cons_of_mem a ((hrest b).mp hb).1) c (List.mem_cons_of_mem a ((hrest c).mp hc).1)) rfl
      rw [List.eraseDupsBy_cons, List.map_cons, List.nodup_cons]
      refine ⟨List.cons_subset_cons a fun b hb => ((hrest b).mp (hsub hb)).1, ⟨?_, hnodup⟩, ?_⟩
      · intro ha
        obtain ⟨b, hb, he⟩ := List.mem_map.mp ha
        exact ((hrest b).mp (hsub hb)).2 he
      · intro b hb
        by_cases he : f b = f a
        · exact he ▸ List.mem_cons_self
        · have hb' := (List.mem_cons.mp hb).resolve_left fun hba => he (congrArg f hba)
          exact List.mem_cons_of_mem _ (hmem b ((hrest b).mpr ⟨hb', he⟩))

namespace Sql

def Constraint.content (c : Constraint) : Nat × String × Nat × String :=
  (c.owner.index, c.column, c.referenced.index, c.referencedColumn)

lemma Constraint.agrees_iff {a b : Constraint} (h : a.owner.index = b.owner.index) :
    a.agrees b = true ↔ a.content = b.content := by
  simp [agrees, content, h, and_assoc]

namespace Statement

def table? : Statement → Option Entity
  | .createTable e _ _ => some e
  | _ => none

def clauses : Statement → List Constraint
  | .createTable _ _ constraints => constraints
  | .createJunction _ => []
  | .addConstraint c => [c]

/-- The entities whose tables have to be there by the end of the statement. -/
def refers : Statement → List Entity
  | .createTable _ _ constraints => constraints.map (·.referenced)
  | .createJunction j => [j.source.entity, j.target.entity]
  | .addConstraint c => [c.owner, c.referenced]

@[simp] lemma table?_createTable {e : Entity} {columns : List ColumnDefinition} {constraints : List Constraint} :
    (createTable e columns constraints).table? = some e := rfl
@[simp] lemma clauses_createTable {e : Entity} {columns : List ColumnDefinition} {constraints : List Constraint} :
    (createTable e columns constraints).clauses = constraints := rfl
@[simp] lemma clauses_createJunction {j : Junction} : (createJunction j).clauses = [] := rfl
@[simp] lemma clauses_addConstraint {c : Constraint} : (addConstraint c).clauses = [c] := rfl

end Statement

section CreateTables

variable {r : Resolution} {created : List Nat} {rest : List Entity} {t : Nat}

lemma constraintsOf_alike (r : Resolution) (t : Nat) :
    (∀ c ∈ constraintsOf r t, ∃ key ∈ r.foreignKeysOf t, constraint key = c) ∧
      ((constraintsOf r t).map (·.content)).Nodup ∧
      ∀ key ∈ r.foreignKeysOf t, (constraint key).content ∈ (constraintsOf r t).map (·.content) := by
  have howner : ∀ c ∈ (r.foreignKeysOf t).map constraint, c.owner.index = t := by
    intro c hc
    obtain ⟨key, hkey, rfl⟩ := List.mem_map.mp hc
    exact beq_iff_eq.mp (List.mem_filter.mp hkey).2
  have halike : ∀ a ∈ (r.foreignKeysOf t).map constraint, ∀ b ∈ (r.foreignKeysOf t).map constraint,
      a.agrees b = true ↔ a.content = b.content :=
    fun a ha b hb => Constraint.agrees_iff ((howner a ha).trans (howner b hb).symm)
  obtain ⟨hsub, hnodup, hmem⟩ := eraseDupsBy_alike halike
  refine ⟨?_, hnodup, ?_⟩
  · intro c hc
    exact List.mem_map.mp (hsub hc)
  · intro key hkey
    exact hmem (constraint key) (List.mem_map_of_mem hkey)

lemma owner_of_mem_constraintsOf {c : Constraint} (h : c ∈ constraintsOf r t) : c.owner.index = t := by
  obtain ⟨key, hkey, rfl⟩ := (constraintsOf_alike r t).1 c h
  exact beq_iff_eq.mp (List.mem_filter.mp hkey).2

lemma createTables_cons (r : Resolution) (created : List Nat) (e : Entity) (rest : List Entity) :
    createTables r created (e :: rest) =
      (.createTable e (columnsOf r e) ((constraintsOf r e.index).filter fun c =>
          (e.index :: created).contains c.referenced.index) :: (createTables r (e.index :: created) rest).1,
        ((constraintsOf r e.index).filter fun c => !(e.index :: created).contains c.referenced.index) ++
          (createTables r (e.index :: created) rest).2) := by
  rw [createTables, List.partition_eq_filter_filter]
  rfl

lemma table?_createTables (r : Resolution) (created : List Nat) (rest : List Entity) :
    (createTables r created rest).1.map (·.table?) = rest.map some := by
  induction rest generalizing created with
  | nil => rfl
  | cons e rest ih =>
    rw [createTables_cons, List.map_cons, ih]
    rfl

lemma filterMap_table?_createTables (r : Resolution) (created : List Nat) (rest : List Entity) :
    (createTables r created rest).1.filterMap (·.table?) = rest := by
  have hmap := congrArg (List.filterMap id) (table?_createTables r created rest)
  simpa [List.filterMap_map] using hmap

lemma clauses_createTables (r : Resolution) (created : List Nat) (rest : List Entity) :
    ((createTables r created rest).1.flatMap (·.clauses) ++ (createTables r created rest).2).Perm
      (rest.flatMap fun e => constraintsOf r e.index) := by
  induction rest generalizing created with
  | nil => exact .refl _
  | cons e rest ih =>
    have hboth := (List.filter_append_perm (fun c : Constraint => (e.index :: created).contains c.referenced.index)
      (constraintsOf r e.index)).append (ih (e.index :: created))
    rw [createTables_cons, List.flatMap_cons, List.flatMap_cons, Statement.clauses_createTable]
    refine .trans ?_ hboth
    rw [List.append_assoc, List.append_assoc]
    exact .append_left _ (List.perm_append_comm_assoc _ _ _)

lemma mem_createTables {st : Statement} (h : st ∈ (createTables r created rest).1) :
    ∃ e ∈ rest, ∃ constraints, st = .createTable e (columnsOf r e) constraints ∧
      constraints ⊆ constraintsOf r e.index := by
  induction rest generalizing created with
  | nil => exact absurd h List.not_mem_nil
  | cons e rest ih =>
    rw [createTables_cons, List.mem_cons] at h
    rcases h with rfl | h
    · exact ⟨e, List.mem_cons_self, _, rfl, List.filter_subset_self _⟩
    · obtain ⟨e', he', h'⟩ := ih h
      exact ⟨e', List.mem_cons_of_mem e he', h'⟩

lemma exists_createTable (created : List Nat) {e : Entity} (h : e ∈ rest) :
    ∃ constraints, .createTable e (columnsOf r e) constraints ∈ (createTables r created rest).1 := by
  induction rest generalizing created with
  | nil => exact absurd h List.not_mem_nil
  | cons e' rest ih =>
    rw [createTables_cons]
    rcases List.mem_cons.mp h with rfl | h
    · exact ⟨_, List.mem_cons_self⟩
    · obtain ⟨constraints, hc⟩ := ih (e'.index :: created) h
      exact ⟨constraints, List.mem_cons_of_mem _ hc⟩

lemma refers_createTables {i : Nat} {st : Statement} (h : (createTables r created rest).1[i]? = some st)
    {e : Entity} (he : e ∈ st.refers) : e.index ∈ created ∨
      e.index ∈ (((createTables r created rest).1.take (i + 1)).filterMap (·.table?)).map (·.index) := by
  induction rest generalizing created i with
  | nil => simp [createTables] at h
  | cons e' rest ih =>
    rw [createTables_cons] at h ⊢
    cases i with
    | zero =>
      obtain rfl := Option.some.inj h
      obtain ⟨c, hc, rfl⟩ := List.mem_map.mp he
      have hcreated := (List.mem_filter.mp hc).2
      simpa [or_comm] using hcreated
    | succ i =>
      have hlater := ih h
      simpa [or_assoc, or_left_comm] using hlater

lemma mem_deferred_iff {c : Constraint} : c ∈ (createTables r created rest).2 ↔
    ∃ earlier e later, rest = earlier ++ e :: later ∧ c ∈ constraintsOf r e.index ∧
      c.referenced.index ∉ created ∧ c.referenced.index ≠ e.index ∧
      c.referenced.index ∉ earlier.map (·.index) := by
  induction rest generalizing created with
  | nil => simp [createTables]
  | cons e rest ih =>
    rw [createTables_cons, List.mem_append, ih, List.mem_filter]
    simp only [Bool.not_eq_true', List.contains_eq_mem, decide_eq_false_iff_not, List.mem_cons,
      not_or]
    constructor
    · rintro (⟨hc, hne, hcreated⟩ | ⟨earlier, e', later, rfl, hc, ⟨hne, hcreated⟩, hne', hearlier⟩)
      · exact ⟨[], e, rest, rfl, hc, hcreated, hne, List.not_mem_nil⟩
      · exact ⟨e :: earlier, e', later, rfl, hc, hcreated, hne', by simp [hne, hearlier]⟩
    · rintro ⟨earlier, e', later, hrest, hc, hcreated, hne, hearlier⟩
      cases earlier with
      | nil =>
        obtain ⟨rfl, rfl⟩ := List.cons.inj hrest
        exact .inl ⟨hc, hne, hcreated⟩
      | cons e'' earlier =>
        obtain ⟨rfl, rfl⟩ := List.cons.inj hrest
        rw [List.map_cons, List.mem_cons, not_or] at hearlier
        exact .inr ⟨earlier, e', later, rfl, hc, ⟨hearlier.1, hcreated⟩, hne, hearlier.2⟩

lemma statements_eq (r : Resolution) : statements r =
    (createTables r [] r.dependencyOrder).1 ++ r.junctions.map .createJunction ++
      (createTables r [] r.dependencyOrder).2.map .addConstraint := rfl

lemma createTable_mem_statements {e : Entity} {columns : List ColumnDefinition} {constraints : List Constraint} :
    .createTable e columns constraints ∈ statements r ↔
      .createTable e columns constraints ∈ (createTables r [] r.dependencyOrder).1 := by
  simp [statements_eq]

lemma createJunction_mem_statements {j : Junction} : .createJunction j ∈ statements r ↔ j ∈ r.junctions := by
  have hnot : .createJunction j ∉ (createTables r [] r.dependencyOrder).1 := by
    intro h
    obtain ⟨_, -, _, h, -⟩ := mem_createTables h
    exact Statement.noConfusion h
  simp [statements_eq, hnot]

lemma addConstraint_mem_statements {c : Constraint} :
    .addConstraint c ∈ statements r ↔ c ∈ (createTables r [] r.dependencyOrder).2 := by
  have hnot : .addConstraint c ∉ (createTables r [] r.dependencyOrder).1 := by
    intro h
    obtain ⟨_, -, _, h, -⟩ := mem_createTables h
    exact Statement.noConfusion h
  simp [statements_eq, hnot]

lemma clauses_statements (r : Resolution) : ((statements r).flatMap (·.clauses)).Perm
    (r.dependencyOrder.flatMap fun e => constraintsOf r e.index) := by
  have hwaiting : ∀ cs : List Constraint, (cs.map Statement.addConstraint).flatMap (·.clauses) = cs := by
    intro cs
    simp [List.flatMap_map]
  have hjunctions : (r.junctions.map Statement.createJunction).flatMap (·.clauses) = [] := by
    simp [List.flatMap_map]
  rw [statements_eq, List.flatMap_append, List.flatMap_append, hwaiting, hjunctions, List.append_nil]
  exact clauses_createTables r [] r.dependencyOrder

end CreateTables

end Sql

end SchemaCode
