import SchemaCode.Proofs.Code.Columns
import SchemaCode.Proofs.Redrawing.Resolution

/-! What most formats read of a resolution: the ends and the keys of each table, in order. -/

namespace SchemaCode

def RelationKind.undirected : RelationKind → RelationKind
  | .oneToMany => .manyToOne
  | k => k

def Column.seen (c : Column) : Column := { c with foreign := false }

def ForeignKey.seen (k : ForeignKey) : ForeignKey := { k with index := 0 }

def Role.seen : Role → Role
  | .owner key => .owner key.seen
  | .inverse key => .inverse key.seen
  | .junction j atSource => .junction j atSource

def End.seen (e : End) : End :=
  { e with index := 0, inverse := 0, kind := e.kind.undirected, relation := "", role := e.role.seen }

namespace Resolution

structure LooksLike (ρ : Redrawing) (r r' : Resolution) : Prop where
  entities : r'.entities = r.entities.map (·.redraw ρ)
  junctions : r'.junctions = r.junctions.map (·.redraw ρ)
  ends : ∀ t, (r'.endsOf (ρ.index t)).map (·.seen) = (r.endsOf t).map fun e => (e.redraw ρ).seen
  keys : ∀ t, (r'.foreignKeysOf (ρ.index t)).map (·.seen) = (r.foreignKeysOf t).map fun k => (k.redraw ρ).seen

lemma looksLike_redraw (ρ : Redrawing) (r : Resolution) : r.LooksLike ρ (r.redraw ρ) where
  entities := rfl
  junctions := rfl
  ends t := by rw [endsOf_redraw, List.map_map]; rfl
  keys t := by rw [foreignKeysOf_redraw, List.map_map]; rfl

lemma flag_map {f : ForeignKey → ForeignKey} (hcolumn : ∀ k, (f k).column = k.column)
    (hunique : ∀ k, (f k).unique = k.unique) (keys : List ForeignKey) : flag (keys.map f) = flag keys := by
  funext c
  simp only [flag, List.filter_map, List.isEmpty_map, List.any_map, Function.comp_def, hcolumn, hunique]

namespace LooksLike

variable {ρ : Redrawing} {r r' : Resolution} {β : Type} (h : r.LooksLike ρ r')

include h

lemma map_entities {f g : Entity → β} (hfg : ∀ e, f (e.redraw ρ) = g e) :
    r'.entities.map f = r.entities.map g := by
  rw [h.entities, List.map_map]
  exact List.map_congr_left fun e _ => hfg e

lemma map_endsOf {f : End → β} (hf : ∀ (ρ : Redrawing) (e : End), f (e.redraw ρ).seen = f e) (t : Nat) :
    (r'.endsOf (ρ.index t)).map f = (r.endsOf t).map f := by
  -- with nothing redrawn, `hf` says that `f` sees no more of an end than `End.seen` shows
  have hseen : ∀ e : End, f e.seen = f e := fun e => by simpa using hf .refl e
  calc (r'.endsOf (ρ.index t)).map f
    _ = ((r'.endsOf (ρ.index t)).map (·.seen)).map f := by simp [Function.comp_def, hseen]
    _ = ((r.endsOf t).map fun e => (e.redraw ρ).seen).map f := by rw [h.ends]
    _ = (r.endsOf t).map f := by simp [Function.comp_def, hf]

lemma filterMap_endsOf {f : End → Option β} (hf : ∀ (ρ : Redrawing) (e : End), f (e.redraw ρ).seen = f e) (t : Nat) :
    (r'.endsOf (ρ.index t)).filterMap f = (r.endsOf t).filterMap f := by
  have hsome := congrArg (List.filterMap id) (h.map_endsOf hf t)
  simpa [List.filterMap_map] using hsome

lemma isEmpty_endsOf (t : Nat) : (r'.endsOf (ρ.index t)).isEmpty = (r.endsOf t).isEmpty := by
  have hends := congrArg List.isEmpty (h.ends t)
  simpa using hends

lemma map_foreignKeysOf {f : ForeignKey → β} (hf : ∀ k : ForeignKey, f k.seen = f k) (t : Nat) :
    (r'.foreignKeysOf (ρ.index t)).map f = (r.foreignKeysOf t).map fun k => f (k.redraw ρ) := by
  have hkeys := congrArg (List.map f) (h.keys t)
  simpa [Function.comp_def, hf] using hkeys

lemma foreignKeyOn? (t : Nat) (column : String) :
    (r'.foreignKeyOn? (ρ.index t) column).map (·.seen) =
      (r.foreignKeyOn? t column).map fun k => (k.redraw ρ).seen := by
  have hkeys := congrArg (List.find? (·.column == column)) (h.keys t)
  rw [List.find?_map, List.find?_map] at hkeys
  exact hkeys

lemma addedKeysOf (t : Nat) :
    (r'.addedKeysOf (ρ.index t)).map (·.seen) = (r.addedKeysOf t).map fun k => (k.redraw ρ).seen := by
  have hkeys := congrArg (List.filter (·.synthesized)) (h.keys t)
  rw [List.filter_map, List.filter_map] at hkeys
  exact hkeys

lemma addedColumnsOf (t : Nat) : r'.addedColumnsOf (ρ.index t) = r.addedColumnsOf t := by
  have hkeys := congrArg (List.map (·.toColumn)) (h.addedKeysOf t)
  rw [List.map_map, List.map_map] at hkeys
  exact hkeys

lemma columnsOf (e : Entity) :
    r'.columnsOf (e.redraw ρ) = (e.redraw ρ).columns.map (flag (r.foreignKeysOf e.index)) := by
  have hflag : flag (r'.foreignKeysOf (ρ.index e.index)) = flag (r.foreignKeysOf e.index) := by
    rw [← flag_map (f := (·.seen)) (fun _ => rfl) (fun _ => rfl), h.keys]
    exact flag_map (f := fun k => (k.redraw ρ).seen) (fun _ => rfl) (fun _ => rfl) _
  rw [Resolution.columnsOf, Entity.index_redraw, hflag]

lemma map_columnsOf {f : Column → β} (hf : ∀ c : Column, f c.seen = f c) (e : Entity) :
    (r'.columnsOf (e.redraw ρ)).map f = (r.columnsOf e).map f := by
  have hcolumn : ∀ keys (c : Column), f (flag keys (c.redraw ρ)) = f (flag keys c) := by
    intro keys c
    rw [← hf, ← hf (flag keys c)]
    rfl
  rw [h.columnsOf, Entity.redraw, List.map_map, List.map_map, Resolution.columnsOf, List.map_map]
  exact List.map_congr_left fun c _ => hcolumn _ c

lemma map_keyedColumns {f : Column × Option ForeignKey → β}
    (hf : ∀ (ρ : Redrawing) (c : Column) (key : Option ForeignKey),
      f (c.seen, key.map fun k => (k.redraw ρ).seen) = f (c, key)) (e : Entity) :
    (r'.keyedColumns (e.redraw ρ)).map f = (r.keyedColumns e).map f := by
  have hseen : ∀ c (key : Option ForeignKey), f (c.seen, key.map (·.seen)) = f (c, key) := by
    intro c key
    simpa using hf .refl c key
  have hkey : ∀ c (key key' : Option ForeignKey), key'.map (·.seen) = key.map (fun k => (k.redraw ρ).seen) →
      f (c, key') = f (c, key) := by
    intro c key key' hk
    rw [← hseen c key', hk, hf]
  have hdeclared : (r'.columnsOf (e.redraw ρ)).map (fun c => f (c, r'.foreignKeyOn? (ρ.index e.index) c.name)) =
      (r.columnsOf e).map fun c => f (c, r.foreignKeyOn? e.index c.name) := by
    simp only [hkey _ _ _ (h.foreignKeyOn? e.index _)]
    exact h.map_columnsOf (fun c => (hseen c.seen _).symm.trans (hseen c _)) e
  have hadded : (r'.addedKeysOf (ρ.index e.index)).map (fun k => f (k.toColumn, some k)) =
      (r.addedKeysOf e.index).map fun k => f (k.toColumn, some k) := by
    have hkeys := congrArg (List.map fun k : ForeignKey => f (k.toColumn.seen, some k)) (h.addedKeysOf e.index)
    rw [List.map_map, List.map_map] at hkeys
    calc (r'.addedKeysOf (ρ.index e.index)).map (fun k => f (k.toColumn, some k))
      _ = _ := List.map_congr_left fun k _ => (hseen k.toColumn (some k)).symm
      _ = _ := hkeys
      _ = _ := List.map_congr_left fun k _ => hf ρ k.toColumn (some k)
  rw [keyedColumns, keyedColumns, List.map_append, List.map_append, List.map_map, List.map_map, List.map_map,
    List.map_map]
  exact congrArg₂ (· ++ ·) hdeclared hadded

end LooksLike

lemma LooksLike.entities_eq {r r' : Resolution} (h : r.LooksLike .refl r') : r'.entities = r.entities := by
  simpa using h.entities

lemma LooksLike.columnsAt_eq {r r' : Resolution} (h : r.LooksLike .refl r') (t : Nat) :
    r'.columnsAt t = r.columnsAt t := by
  rw [columnsAt, columnsAt, h.entities_eq]
  cases r.entities.find? (·.index == t) with
  | none => rfl
  | some e =>
    have hcolumns := h.columnsOf e
    rw [Entity.redraw_refl] at hcolumns
    exact hcolumns

end Resolution

end SchemaCode
