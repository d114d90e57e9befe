import SchemaCode.Proofs.Relation.Levels
import SchemaCode.Proofs.Redrawing.Looks

/-! Dependency order does not hang on the positions of the tables. -/

namespace SchemaCode

lemma eraseDupsBy_map {α β : Type} {same : α → α → Bool} {same' : β → β → Bool} {f : α → β}
    (h : ∀ a b, same' (f a) (f b) = same a b) (xs : List α) :
    (xs.map f).eraseDupsBy same' = (xs.eraseDupsBy same).map f := by
  induction hn : xs.length using Nat.strongRecOn generalizing xs with
  | _ n ih =>
    cases xs with
    | nil => rfl
    | cons a xs =>
      have hsame : ∀ b, decide (same' (f b) (f a) = false) = decide (same b a = false) := fun b => by rw [h]
      have hlt : (xs.filter fun b => decide (same b a = false)).length < n := by
        rw [← hn]
        exact Nat.lt_succ_of_le (List.length_filter_le _ xs)
      rw [List.map_cons, List.eraseDupsBy_cons, List.filter_map, List.eraseDupsBy_cons, List.map_cons]
      simp only [Function.comp_def, hsame]
      rw [ih _ hlt _ rfl]

namespace Levels

variable {ι : Nat → Nat} {levels levels' : Levels}

structure Renumbers (ι : Nat → Nat) (levels levels' : Levels) : Prop where
  size : levels'.size = levels.size
  level : ∀ t : Nat, levels'[ι t]? = levels[t]?

lemma renumbers_empty (ι : Nat → Nat) : Renumbers ι ∅ ∅ := ⟨rfl, fun _ => by simp⟩

lemma Renumbers.above (h : Renumbers ι levels levels') (ts : List Nat) :
    levels'.above (ts.map ι) = levels.above ts := by
  induction ts with
  | nil => rfl
  | cons t ts ih => rw [List.map_cons, Levels.above, Levels.above, h.level, ih]

lemma Renumbers.insert (h : Renumbers ι levels levels') (hι : Function.Injective ι) (t n : Nat) :
    Renumbers ι (levels.insert t n) (levels'.insert (ι t) n) := by
  have hmem : ι t ∈ levels' ↔ t ∈ levels := by
    rw [Std.HashMap.mem_iff_isSome_getElem?, Std.HashMap.mem_iff_isSome_getElem?, h.level]
  constructor
  · rw [Std.HashMap.size_insert, Std.HashMap.size_insert, h.size]
    simp only [hmem]
  · intro u
    rw [Std.HashMap.getElem?_insert, Std.HashMap.getElem?_insert, h.level, hι.beq_eq]

lemma Renumbers.place (h : Renumbers ι levels levels') (hι : Function.Injective ι) (t : Nat × List Nat) :
    Renumbers ι (levels.place t) (levels'.place (ι t.1, t.2.map ι)) := by
  simp only [Levels.place, Std.HashMap.contains_eq_isSome_getElem?, h.level, h.above]
  split
  · exact h
  · cases levels.above t.2 with
    | none => exact h
    | some n => exact h.insert hι t.1 n

lemma Renumbers.sweep (h : Renumbers ι levels levels') (hι : Function.Injective ι) (tables : List (Nat × List Nat)) :
    Renumbers ι (tables.foldl Levels.place levels)
      ((tables.map fun t => (ι t.1, t.2.map ι)).foldl Levels.place levels') := by
  induction tables generalizing levels levels' with
  | nil => exact h
  | cons t tables ih => exact ih (h.place hι t)

lemma Renumbers.settle (h : Renumbers ι levels levels') (hι : Function.Injective ι) (tables : List (Nat × List Nat))
    (sweeps : Nat) : Renumbers ι (Levels.settle tables sweeps levels)
      (Levels.settle (tables.map fun t => (ι t.1, t.2.map ι)) sweeps levels') := by
  induction sweeps generalizing levels levels' with
  | zero => exact h
  | succ sweeps ih =>
    have hnext := h.sweep hι tables
    rw [Levels.settle, Levels.settle, hnext.size, h.size]
    split
    · exact h
    · exact ih hnext

end Levels

namespace Resolution.LooksLike

variable {ρ : Redrawing} {r r' : Resolution} (h : r.LooksLike ρ r')

include h

lemma references (t : Nat) : r'.references (ρ.index t) = (r.references t).map ρ.index := by
  have hother : ∀ i, (ρ.index i != ρ.index t) = (i != t) := fun _ => congrArg (!·) ρ.injective.beq_eq
  have hkeys : (r'.foreignKeysOf (ρ.index t)).map (·.referenced.index) =
      ((r.foreignKeysOf t).map (·.referenced.index)).map ρ.index := by
    rw [h.map_foreignKeysOf (fun _ => rfl), List.map_map]
    rfl
  rw [Resolution.references, Resolution.references, List.eraseDups, List.eraseDups,
    ← eraseDupsBy_map fun a b => ρ.injective.beq_eq, hkeys, List.filter_map]
  simp only [Function.comp_def, hother]

lemma levels : Levels.Renumbers ρ.index r.levels r'.levels := by
  have htables : (r'.entities.map fun e => (e.index, r'.references e.index)) =
      (r.entities.map fun e => (e.index, r.references e.index)).map fun t => (ρ.index t.1, t.2.map ρ.index) := by
    rw [h.entities, List.map_map, List.map_map]
    exact List.map_congr_left fun e _ => congrArg (ρ.index e.index, ·) (h.references e.index)
  have hlength : r'.entities.length = r.entities.length := by rw [h.entities, List.length_map]
  rw [Resolution.levels, Resolution.levels, htables, hlength]
  exact (Levels.renumbers_empty ρ.index).settle ρ.injective _ _

lemma dependencyOrder : r'.dependencyOrder = r.dependencyOrder.map (·.redraw ρ) := by
  have hlevel : ∀ e : Entity, r'.levels[(e.redraw ρ).index]? = r.levels[e.index]? := fun e => h.levels.level e.index
  simp only [Resolution.dependencyOrder, h.entities, List.filterMap_map, List.filter_map, Function.comp_def, hlevel,
    List.map_append, List.map_flatMap]

end Resolution.LooksLike

lemma Resolution.LooksLike.dependencyOrder_eq {r r' : Resolution} (h : r.LooksLike .refl r') :
    r'.dependencyOrder = r.dependencyOrder := by
  simpa using h.dependencyOrder

end SchemaCode
