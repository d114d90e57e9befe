import Mathlib.Data.List.Forall2
import SchemaCode.Code.SqlAlchemy
import SchemaCode.Proofs.Code.References

namespace SchemaCode

namespace SqlAlchemy

def squeezed (c : Char) : Char := if c.isAlphanum then c else '_'

def padded (name : String) : List Char :=
  match name.toList with
  | [] => ['_']
  | c :: cs => if c.isDigit then '_' :: c :: cs else c :: cs

def Resembles (c d : Char) : Prop := c = d ∨ c.isAlphanum = false ∧ d.isAlphanum = false

def LookAlike (name name' : String) : Prop := List.Forall₂ Resembles (padded name) (padded name')

section Names

variable {c d : Char} {name name' : String}

lemma ne_mark_of_isAlphanum (h : c.isAlphanum = true) : c ≠ '_' := by
  rintro rfl
  exact absurd h (by decide)

lemma squeezed_eq_iff : squeezed c = squeezed d ↔ Resembles c d := by
  by_cases hc : c.isAlphanum = true
  · by_cases hd : d.isAlphanum = true
    · simp [squeezed, Resembles, hc, hd]
    · have hne : c ≠ d := fun h => hd (h ▸ hc)
      simp [squeezed, Resembles, hc, hd, hne, ne_mark_of_isAlphanum hc]
  · by_cases hd : d.isAlphanum = true
    · have hne : c ≠ d := fun h => hc (h ▸ hd)
      simp [squeezed, Resembles, hc, hd, hne, (ne_mark_of_isAlphanum hd).symm]
    · simp [squeezed, Resembles, hc, hd]

lemma isDigit_squeezed (c : Char) : (squeezed c).isDigit = c.isDigit := by
  by_cases h : c.isAlphanum = true
  · rw [squeezed, if_pos h]
  · have hdigit : c.isDigit = false := by
      rw [Char.isAlphanum, Bool.or_eq_true, not_or] at h
      exact Bool.eq_false_iff.mpr h.2
    rw [squeezed, if_neg h, hdigit]
    rfl

lemma identifier_eq (name : String) : identifier name = String.ofList ((padded name).map squeezed) := by
  unfold identifier padded
  cases name.toList with
  | nil => rfl
  | cons c cs =>
    have hdigit := isDigit_squeezed c
    rw [squeezed] at hdigit
    simp only [List.map_cons, hdigit]
    cases c.isDigit <;> rfl

lemma identifier_eq_iff : identifier name = identifier name' ↔ LookAlike name name' := by
  rw [identifier_eq, identifier_eq, String.ofList_inj, LookAlike, ← List.forall₂_eq_eq_eq]
  simp only [List.forall₂_map_left_iff, List.forall₂_map_right_iff, squeezed_eq_iff]

end Names

def Module.table? (m : Module) (v : String) : Option Junction := m.tables.reverse.find? (identifier ·.name == v)

def argumentsThrough (v : String) (e : End) (near far : JunctionSide) : List String :=
  let condition (side : JunctionSide) :=
    "\"" ++ e.related.name ++ "." ++ side.referencedColumn ++ " == " ++ v ++ ".c." ++ side.column ++ "\""
  ("secondary=" ++ v) ::
    if e.entity.index = e.related.index then ["primaryjoin=" ++ condition near, "secondaryjoin=" ++ condition far]
    else []

def Module.Finds (m : Module) (e : End) (j : Junction) (atSource : Bool) : Prop :=
  ∃ v, storageArguments e = argumentsThrough v e (j.side atSource) (j.side !atSource) ∧ m.table? v = some j

section Tables

variable {s : Schema} {e : End} {j : Junction} {atSource : Bool}

lemma storageArguments_eq (h : e.role = .junction j atSource) :
    storageArguments e = argumentsThrough (identifier j.name) e (j.side atSource) (j.side !atSource) := by
  rw [storageArguments, h]
  cases atSource <;> simp [argumentsThrough, joinConditions, Junction.side]

lemma finds_iff_table? {m : Module} (h : e.role = .junction j atSource) :
    m.Finds e j atSource ↔ m.table? (identifier j.name) = some j := by
  constructor
  · rintro ⟨v, harguments, hv⟩
    rw [storageArguments_eq h, argumentsThrough, argumentsThrough, List.cons.injEq,
      String.append_right_inj] at harguments
    exact harguments.1 ▸ hv
  · exact fun hv => ⟨_, storageArguments_eq h, hv⟩

lemma junctions_sorted (s : Schema) : s.resolve.junctions.Pairwise fun j j' => j.index < j'.index := by
  have hindices : s.resolve.junctions.map (·.index) = List.range s.resolve.junctions.length :=
    Schema.junction_indices_draftAfter s.relationships
  exact List.pairwise_map.mp (hindices ▸ List.pairwise_lt_range)

lemma exists_append_junctions (hj : j ∈ s.resolve.junctions) :
    ∃ earlier later, s.resolve.junctions = earlier ++ j :: later ∧
      ∀ j', j' ∈ later ↔ j' ∈ s.resolve.junctions ∧ j.index < j'.index := by
  obtain ⟨earlier, later, hsplit⟩ := List.append_of_mem hj
  have hsorted := junctions_sorted s
  rw [hsplit, List.pairwise_append, List.pairwise_cons] at hsorted
  obtain ⟨-, ⟨hlater, -⟩, hearlier⟩ := hsorted
  refine ⟨earlier, later, hsplit, fun j' => ⟨fun h => ⟨by simp [hsplit, h], hlater j' h⟩, ?_⟩⟩
  rintro ⟨h, hlt⟩
  rw [hsplit, List.mem_append, List.mem_cons] at h
  rcases h with h | rfl | h
  · exact absurd hlt (Nat.lt_asymm (hearlier j' h j List.mem_cons_self))
  · exact absurd hlt (Nat.lt_irrefl _)
  · exact h

lemma table?_eq_some_iff (hj : j ∈ s.resolve.junctions) :
    (moduleOf s.resolve).table? (identifier j.name) = some j ↔
      ∀ j' ∈ s.resolve.junctions, j.index < j'.index → ¬ LookAlike j.name j'.name := by
  obtain ⟨earlier, later, hsplit, hlater⟩ := exists_append_junctions hj
  have hreverse : (moduleOf s.resolve).tables.reverse = later.reverse ++ j :: earlier.reverse := by
    simp [moduleOf, hsplit]
  have hlast : (moduleOf s.resolve).table? (identifier j.name) = some j ↔
      ∀ j' ∈ later, identifier j'.name ≠ identifier j.name := by
    have hself : (j :: earlier.reverse).find? (identifier ·.name == identifier j.name) = some j := by simp
    rw [Module.table?, hreverse, List.find?_append, hself]
    cases hfound : later.reverse.find? (identifier ·.name == identifier j.name) with
    | none => simpa using List.find?_eq_none.mp hfound
    | some j' =>
      have hmem := List.mem_reverse.mp (List.mem_of_find?_eq_some hfound)
      have halike := List.find?_some hfound
      refine iff_of_false ?_ fun h => h j' hmem (beq_iff_eq.mp halike)
      intro h
      obtain rfl := Option.some.inj h
      exact Nat.lt_irrefl _ ((hlater j').mp hmem).2
  rw [hlast]
  simp only [hlater, and_imp, ← identifier_eq_iff]
  exact forall₃_congr fun j' _ _ => ne_comm

lemma mem_junctions_of_role (he : e ∈ s.resolve.ends) (hr : e.role = .junction j atSource) :
    j ∈ s.resolve.junctions := by
  obtain ⟨k, r, rs, a, b, l, m, rfl | rfl⟩ := Schema.exists_made_of_end he
  · exact List.mem_of_getElem? (m.liesOn_iff (Link.sourceRole_eq_junction_iff.mp hr)).2.1
  · exact List.mem_of_getElem? (m.liesOn_iff (Link.targetRole_eq_junction_iff.mp hr)).2.1

lemma finds_iff (he : e ∈ s.resolve.ends) (hr : e.role = .junction j atSource) :
    (moduleOf s.resolve).Finds e j atSource ↔
      ∀ j' ∈ s.resolve.junctions, j.index < j'.index → ¬ LookAlike j.name j'.name := by
  rw [finds_iff_table? hr, table?_eq_some_iff (mem_junctions_of_role he hr)]

lemma exists_end_of_junction (hj : j ∈ s.resolve.junctions) : ∃ e ∈ s.resolve.ends, e.role = .junction j true := by
  obtain ⟨l, hl, hstorage, -⟩ := Schema.exists_founder hj
  obtain ⟨k, hk⟩ := List.mem_iff_getElem?.mp hl
  refine ⟨l.sourceEnd k, List.mem_of_getElem? (i := 2 * k) ?_, Link.sourceRole_eq_junction_iff.mpr hstorage⟩
  rw [Resolution.getElem?_ends_even, hk, Option.map_some]

lemma nodup_variables_iff (r : Resolution) : ((moduleOf r).tables.map (identifier ·.name)).Nodup ↔
    r.junctions.Pairwise fun j j' => ¬ LookAlike j.name j'.name := by
  rw [List.nodup_iff_pairwise_ne, List.pairwise_map]
  simp only [ne_eq, identifier_eq_iff]
  rfl

theorem variables_distinct_iff (s : Schema) :
    (((moduleOf s.resolve).tables.map (identifier ·.name)).Nodup ↔
        s.resolve.junctions.Pairwise fun j j' => ¬ LookAlike j.name j'.name) ∧
      (∀ e ∈ s.resolve.ends, ∀ j atSource, e.role = .junction j atSource →
        ((moduleOf s.resolve).Finds e j atSource ↔
          ∀ j' ∈ s.resolve.junctions, j.index < j'.index → ¬ LookAlike j.name j'.name)) ∧
      ((∀ e ∈ s.resolve.ends, ∀ j atSource, e.role = .junction j atSource →
          (moduleOf s.resolve).Finds e j atSource) ↔
        ((moduleOf s.resolve).tables.map (identifier ·.name)).Nodup) := by
  refine ⟨nodup_variables_iff _, fun e he j atSource => finds_iff he, ?_⟩
  rw [nodup_variables_iff]
  constructor
  · intro h
    refine (junctions_sorted s).imp_of_mem ?_
    intro j j' hj hj' hlt
    -- a relationship was the first to ask for the junction
    obtain ⟨e, he, hr⟩ := exists_end_of_junction hj
    exact (finds_iff he hr).mp (h e he j true hr) j' hj' hlt
  · intro h e he j atSource hr
    refine (finds_iff he hr).mpr fun j' hj' hlt => ?_
    obtain ⟨earlier, later, hsplit, hlater⟩ := exists_append_junctions (mem_junctions_of_role he hr)
    rw [hsplit, List.pairwise_append, List.pairwise_cons] at h
    exact h.2.1.1 j' ((hlater j').mpr ⟨hj', hlt⟩)

def dashedRoles : Schema where
  tables := [
    { id := "a", name := "User", columns := some [{ name := "id", type := .uuid, primary := true }] },
    { id := "b", name := "Team", columns := some [{ name := "id", type := .uuid, primary := true }] }]
  relationships := [
    { source := "a", target := "b", declared := some .manyToMany, through := some "user-roles" },
    { source := "a", target := "b", declared := some .manyToMany, through := some "user_roles" }]

theorem dashedRoles_share_variable :
    ∃ j ∈ dashedRoles.resolve.junctions, ∃ j' ∈ dashedRoles.resolve.junctions,
      j.name = "user-roles" ∧ j'.name = "user_roles" ∧ identifier j.name = identifier j'.name ∧
      ¬ ∀ e ∈ dashedRoles.resolve.ends, ∀ j atSource, e.role = .junction j atSource →
        (moduleOf dashedRoles.resolve).Finds e j atSource := by
  have hnamed : ∀ key ∈ ["user-roles", "user_roles"], ∃ j ∈ dashedRoles.resolve.junctions, j.name = key := by
    have hkeys : dashedRoles.joinings.map (·.key) = ["user-roles", "user_roles"] := by decide
    have htables : ∀ key ∈ ["user-roles", "user_roles"], ∀ e ∈ dashedRoles.entities, e.lowerName ≠ key := by decide
    have hparts : ∀ key ∈ ["user-roles", "user_roles"], ∀ key' ∈ ["user-roles", "user_roles"],
        key' ≠ key → ¬ key'.toList <+: key.toList := by decide
    intro key hkey
    obtain ⟨j, hj, rfl⟩ := List.mem_map.mp (Schema.mem_keys_junctions_iff.mpr (hkeys ▸ hkey))
    exact ⟨j, hj, Schema.name_eq_key hj (htables _ hkey) (hkeys ▸ hparts _ hkey)⟩
  obtain ⟨j, hj, hname⟩ := hnamed "user-roles" (by decide)
  obtain ⟨j', hj', hname'⟩ := hnamed "user_roles" (by decide)
  have hvariable : identifier j.name = identifier j'.name := by
    rw [hname, hname']
    decide
  refine ⟨j, hj, j', hj', hname, hname', hvariable, fun h => ?_⟩
  obtain ⟨e, he, hr⟩ := exists_end_of_junction hj
  obtain ⟨e', he', hr'⟩ := exists_end_of_junction hj'
  have hfirst := (finds_iff_table? hr).mp (h e he j true hr)
  have hsecond := (finds_iff_table? hr').mp (h e' he' j' true hr')
  rw [hvariable, hsecond, Option.some.injEq] at hfirst
  rw [← hfirst, hname'] at hname
  exact absurd hname (by decide)

end Tables

end SqlAlchemy

end SchemaCode
