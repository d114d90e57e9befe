import SchemaCode.Proofs.Relation.DependencyOrder

namespace SchemaCode

lemma append_cons_cases {α : Type} {as bs xs ys : List α} {c : α} (h : as ++ c :: xs = bs ++ c :: ys) :
    as = bs ∧ xs = ys ∨ as ++ [c] <+: bs ∨ bs ++ [c] <+: as := by
  rcases List.append_eq_append_iff.mp h with ⟨m, rfl, hm⟩ | ⟨m, rfl, hm⟩
  · cases m with
    | nil => exact .inl (by simpa using hm)
    | cons d m =>
      obtain ⟨rfl, -⟩ := List.cons.inj hm
      exact .inr (.inl ⟨m, by simp⟩)
  · cases m with
    | nil => exact .inl (by simpa [eq_comm] using hm)
    | cons d m =>
      obtain ⟨rfl, -⟩ := List.cons.inj hm
      exact .inr (.inr ⟨m, by simp⟩)

namespace Entity

def Heads (a b : Entity) : Prop := a.lowerName.toList ++ ['_'] <+: b.lowerName.toList

lemma not_heads_self (e : Entity) : ¬ e.Heads e := by
  intro h
  have hlength := h.length_le
  rw [List.length_append, List.length_singleton] at hlength
  omega

lemma heads_of_joined_eq {a b : Entity} {x y : String} (h : a.lowerName ++ "_" ++ x = b.lowerName ++ "_" ++ y)
    (hne : a.lowerName ≠ b.lowerName) : a.Heads b ∨ b.Heads a := by
  have hchars := congrArg String.toList h
  simp only [String.toList_append, List.append_assoc] at hchars
  obtain ⟨hname, -⟩ | hheads := append_cons_cases hchars
  · exact absurd (String.toList_inj.mp hname) hne
  · exact hheads

end Entity

namespace Ownership

variable {o : Ownership}

lemma column_eq_standIn (h : o.owner.hasColumn o.column = false) : o.column = o.standIn := by
  by_cases hr : o.reusesLocal = true
  · rw [column, if_pos hr, hasColumn_of_reusesLocal hr] at h
    exact absurd h.symm Bool.false_ne_true
  · rw [column, if_neg hr]

end Ownership

namespace Schema

variable {s : Schema} {f g : ForeignKey}

lemma exists_foreignKey_eq (h : f ∈ s.resolve.foreignKeys) : ∃ (d : Draft) (o : Ownership), f = d.foreignKey o := by
  obtain ⟨i, hi⟩ := List.mem_iff_getElem?.mp h
  obtain ⟨k, r, rs, a, b, l, o, -, -, -, he, -⟩ := exists_made_of_key hi
  exact ⟨_, o, he⟩

lemma type_eq_typeOf (h : f ∈ s.resolve.foreignKeys) : f.type = f.referenced.typeOf f.referencedColumn := by
  obtain ⟨d, o, rfl⟩ := exists_foreignKey_eq h
  rfl

lemma column_eq_of_not_declares (h : f ∈ s.resolve.foreignKeys) (hd : ¬ s.Declares f.owner.index f.column) :
    f.column = f.referenced.lowerName ++ "_" ++ f.referencedColumn := by
  rw [declares_iff (owner_mem_entities h), Bool.not_eq_true] at hd
  obtain ⟨d, o, rfl⟩ := exists_foreignKey_eq h
  exact Ownership.column_eq_standIn hd

/-- Where table names differ, two keys that share an added column refer to the same column just if neither
referenced table's name goes on, behind an underscore, where the other one's ends. -/
theorem shared_key_column_iff (s : Schema) (hnames : (s.entities.map (·.lowerName)).Nodup) {f g : ForeignKey}
    (hf : f ∈ s.resolve.foreignKeys) (hg : g ∈ s.resolve.foreignKeys) (ht : f.owner.index = g.owner.index)
    (hc : f.column = g.column) (hd : ¬ s.Declares f.owner.index f.column) :
    (f.referenced = g.referenced ∧ f.referencedColumn = g.referencedColumn ∧ f.type = g.type) ↔
      ¬ f.referenced.Heads g.referenced ∧ ¬ g.referenced.Heads f.referenced := by
  have hshared : f.referenced.lowerName ++ "_" ++ f.referencedColumn =
      g.referenced.lowerName ++ "_" ++ g.referencedColumn := by
    rw [← column_eq_of_not_declares hf hd, hc, column_eq_of_not_declares hg (ht ▸ hc ▸ hd)]
  constructor
  · rintro ⟨hreferenced, -, -⟩
    rw [hreferenced]
    exact ⟨g.referenced.not_heads_self, g.referenced.not_heads_self⟩
  · rintro ⟨hfg, hgf⟩
    have hreferenced : f.referenced = g.referenced := by
      by_contra hne
      have hname := mt (List.inj_on_of_nodup_map hnames (referenced_mem_entities hf) (referenced_mem_entities hg)) hne
      exact (Entity.heads_of_joined_eq hshared hname).elim hfg hgf
    rw [hreferenced, String.append_right_inj] at hshared
    exact ⟨hreferenced, hshared, by rw [type_eq_typeOf hf, type_eq_typeOf hg, hreferenced, hshared]⟩

def teamLeads : Schema where
  tables := [
    { id := "a", name := "User", columns := some [{ name := "id", type := .uuid, primary := true }] },
    { id := "b", name := "Team", columns := some [{ name := "lead_id", type := .integer }] },
    { id := "c", name := "Team_lead", columns := some [{ name := "id", type := .uuid, primary := true }] }]
  relationships := [
    { source := "a", target := "b", targetKey := "lead_id", declared := some .manyToOne },
    { source := "a", target := "c", targetKey := "id", declared := some .manyToOne }]

lemma teamLeads_not_declares : ¬ teamLeads.Declares 0 "team_lead_id" := by
  rintro ⟨table, ht, hc⟩
  obtain rfl := Option.some.inj ht
  exact absurd hc (by decide)

theorem shared_key_column_iff_teamLeads :
    (teamLeads.entities.map (·.lowerName)).Nodup ∧
      ∃ f ∈ teamLeads.resolve.foreignKeys, ∃ g ∈ teamLeads.resolve.foreignKeys,
        f.owner.index = g.owner.index ∧ f.column = g.column ∧ ¬ teamLeads.Declares f.owner.index f.column ∧
        ((f.referenced = g.referenced ∧ f.referencedColumn = g.referencedColumn ∧ f.type = g.type) ↔
          ¬ f.referenced.Heads g.referenced ∧ ¬ g.referenced.Heads f.referenced) := by
  have hnames : (teamLeads.entities.map (·.lowerName)).Nodup := by decide
  have hf := List.mem_of_getElem? (l := teamLeads.resolve.foreignKeys) (i := 0) rfl
  have hg := List.mem_of_getElem? (l := teamLeads.resolve.foreignKeys) (i := 1) rfl
  exact ⟨hnames, _, hf, _, hg, rfl, rfl, teamLeads_not_declares,
    shared_key_column_iff teamLeads hnames hf hg rfl rfl teamLeads_not_declares⟩

theorem teamLeads_share_column :
    (teamLeads.entities.map (·.lowerName)).Nodup ∧
      ∃ f ∈ teamLeads.resolve.foreignKeys, ∃ g ∈ teamLeads.resolve.foreignKeys,
        f.owner.index = g.owner.index ∧ f.column = g.column ∧ ¬ teamLeads.Declares f.owner.index f.column ∧
        f.referenced.index ≠ g.referenced.index ∧ f.referencedColumn ≠ g.referencedColumn ∧ f.type ≠ g.type := by
  have hf := List.mem_of_getElem? (l := teamLeads.resolve.foreignKeys) (i := 0) rfl
  have hg := List.mem_of_getElem? (l := teamLeads.resolve.foreignKeys) (i := 1) rfl
  refine ⟨by decide, _, hf, _, hg, rfl, rfl, teamLeads_not_declares, ?_, ?_, ?_⟩
  · show (1 : Nat) ≠ 2
    decide
  · show "lead_id" ≠ "id"
    decide
  · show ColumnType.integer ≠ .uuid
    decide

end Schema

end SchemaCode
