import SchemaCode.Proofs.Redrawing.Order
import SchemaCode.Proofs.Sql.Statements

namespace SchemaCode.Sql

section Data

variable (ρ : Redrawing)

def Constraint.redraw (c : Constraint) : Constraint :=
  { c with owner := c.owner.redraw ρ, referenced := c.referenced.redraw ρ }

lemma Constraint.render_redraw (c : Constraint) : (c.redraw ρ).render = c.render := rfl

end Data

variable {ρ : Redrawing} {r r' : Resolution} (h : r.LooksLike ρ r')

include h

lemma constraintsOf_looksLike (t : Nat) :
    constraintsOf r' (ρ.index t) = (constraintsOf r t).map (·.redraw ρ) := by
  have hagrees : ∀ a b : Constraint, (a.redraw ρ).agrees (b.redraw ρ) = a.agrees b := by
    intro a b
    simp only [Constraint.agrees, Constraint.redraw, Entity.index_redraw, ρ.injective.beq_eq]
  have hkeys : (r'.foreignKeysOf (ρ.index t)).map constraint =
      ((r.foreignKeysOf t).map constraint).map (·.redraw ρ) := by
    rw [h.map_foreignKeysOf (fun _ => rfl), List.map_map]
    rfl
  rw [constraintsOf, constraintsOf, ← eraseDupsBy_map hagrees, hkeys]

lemma columnsOf_looksLike (e : Entity) :
    (columnsOf r' (e.redraw ρ)).map (·.render) = (columnsOf r e).map (·.render) := by
  have hdeclared := h.map_columnsOf (f := fun c => (ColumnDefinition.mk c false).render) (fun _ => rfl) e
  rw [columnsOf, columnsOf, List.map_append, List.map_append, List.map_map, List.map_map, List.map_map, List.map_map,
    Entity.index_redraw, h.addedColumnsOf]
  exact congrArg (· ++ _) hdeclared

lemma render_createTable (e : Entity) (p q : Constraint → Bool) (hpq : ∀ c, p (c.redraw ρ) = q c) :
    (Statement.createTable (e.redraw ρ) (columnsOf r' (e.redraw ρ))
        ((constraintsOf r' (ρ.index e.index)).filter p)).render =
      (Statement.createTable e (columnsOf r e) ((constraintsOf r e.index).filter q)).render := by
  rw [Statement.render, Statement.render, columnsOf_looksLike h, constraintsOf_looksLike h, List.filter_map,
    List.map_map]
  simp only [Function.comp_def, hpq, Constraint.render_redraw, Entity.lowerName_redraw]

lemma createTables_looksLike (created : List Nat) (rest : List Entity) :
    (createTables r' (created.map ρ.index) (rest.map (·.redraw ρ))).1.map (·.render) =
        (createTables r created rest).1.map (·.render) ∧
      (createTables r' (created.map ρ.index) (rest.map (·.redraw ρ))).2 =
        (createTables r created rest).2.map (·.redraw ρ) := by
  induction rest generalizing created with
  | nil => exact ⟨rfl, rfl⟩
  | cons e rest ih =>
    have hcreated : ∀ c : Constraint, ((e.index :: created).map ρ.index).contains (c.redraw ρ).referenced.index =
        (e.index :: created).contains c.referenced.index := by
      intro c
      rw [Bool.eq_iff_iff, List.contains_iff_mem, List.contains_iff_mem]
      exact List.mem_map_of_injective ρ.injective
    obtain ⟨hstatements, hwaiting⟩ := ih (e.index :: created)
    rw [List.map_cons] at hcreated hstatements hwaiting
    rw [List.map_cons, createTables_cons, createTables_cons, Entity.index_redraw]
    constructor
    · rw [List.map_cons, List.map_cons, hstatements, render_createTable h e _ _ hcreated]
    · simp only [hwaiting, constraintsOf_looksLike h, List.filter_map, Function.comp_def, hcreated, List.map_append]

lemma code_looksLike : code r' = code r := by
  obtain ⟨htables, hwaiting⟩ := createTables_looksLike h [] r.dependencyOrder
  rw [List.map_nil, ← h.dependencyOrder] at htables hwaiting
  have hjunctions : ∀ j : Junction,
      (Statement.createJunction (j.redraw ρ)).render = (Statement.createJunction j).render := fun _ => rfl
  have hconstraints : ∀ c : Constraint,
      (Statement.addConstraint (c.redraw ρ)).render = (Statement.addConstraint c).render := fun _ => rfl
  simp only [code, statements_eq, List.map_append, List.map_map, Function.comp_def, htables, hwaiting, h.junctions,
    hjunctions, hconstraints]

end SchemaCode.Sql
