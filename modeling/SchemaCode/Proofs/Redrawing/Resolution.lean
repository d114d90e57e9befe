import Mathlib.Logic.Function.Basic
import SchemaCode.Relation.Resolution

namespace SchemaCode

/-- New positions and ids for the tables, and new advisory flags for their columns. -/
structure Redrawing where
  index : Nat → Nat
  id : String → String
  foreign : Bool → Bool
  injective : Function.Injective index

namespace Redrawing

def refl : Redrawing := ⟨fun i => i, fun x => x, fun b => b, fun _ _ h => h⟩

def moving (ι : Nat → Nat) (hι : Function.Injective ι) : Redrawing := ⟨ι, fun x => x, fun b => b, hι⟩

end Redrawing

section Data

variable (ρ : Redrawing)

def Column.redraw (c : Column) : Column := { c with foreign := ρ.foreign c.foreign }

def Entity.redraw (e : Entity) : Entity := ⟨ρ.index e.index, ρ.id e.id, e.name, e.columns.map (·.redraw ρ)⟩

def ForeignKey.redraw (k : ForeignKey) : ForeignKey :=
  { k with owner := k.owner.redraw ρ, referenced := k.referenced.redraw ρ }

def JunctionSide.redraw (s : JunctionSide) : JunctionSide := { s with entity := s.entity.redraw ρ }

def Junction.redraw (j : Junction) : Junction :=
  { j with source := j.source.redraw ρ, target := j.target.redraw ρ }

def Storage.redraw : Storage → Storage
  | .column key atSource => .column (key.redraw ρ) atSource
  | .junction j forward => .junction (j.redraw ρ) forward

def Link.redraw (l : Link) : Link :=
  { l with source := l.source.redraw ρ, target := l.target.redraw ρ, storage := l.storage.redraw ρ }

def Role.redraw : Role → Role
  | .owner key => .owner (key.redraw ρ)
  | .inverse key => .inverse (key.redraw ρ)
  | .junction j atSource => .junction (j.redraw ρ) atSource

def End.redraw (e : End) : End :=
  { e with entity := e.entity.redraw ρ, related := e.related.redraw ρ, role := e.role.redraw ρ }

def Resolution.redraw (r : Resolution) : Resolution where
  hasTables := r.hasTables
  entities := r.entities.map (·.redraw ρ)
  links := r.links.map (·.redraw ρ)
  junctions := r.junctions.map (·.redraw ρ)

@[simp] lemma Entity.index_redraw (e : Entity) : (e.redraw ρ).index = ρ.index e.index := rfl
@[simp] lemma Entity.name_redraw (e : Entity) : (e.redraw ρ).name = e.name := rfl
@[simp] lemma Entity.lowerName_redraw (e : Entity) : (e.redraw ρ).lowerName = e.lowerName := rfl

lemma Entity.column?_redraw (e : Entity) (name : String) :
    (e.redraw ρ).column? name = (e.column? name).map (·.redraw ρ) := List.find?_map

@[simp] lemma Entity.hasColumn_redraw (e : Entity) (name : String) :
    (e.redraw ρ).hasColumn name = e.hasColumn name := by
  rw [hasColumn, column?_redraw, Option.isSome_map, hasColumn]

@[simp] lemma Entity.typeOf_redraw (e : Entity) (name : String) : (e.redraw ρ).typeOf name = e.typeOf name := by
  rw [typeOf, column?_redraw, typeOf]
  cases e.column? name <;> rfl

variable (l : Link) (k : Nat)

lemma Link.foreignKey?_redraw : (l.redraw ρ).foreignKey? = l.foreignKey?.map (·.redraw ρ) := by
  rw [foreignKey?, foreignKey?, redraw]
  cases l.storage <;> rfl

lemma Link.foreignKeys_redraw (ls : List Link) :
    (ls.map (·.redraw ρ)).filterMap (·.foreignKey?) = (ls.filterMap (·.foreignKey?)).map (·.redraw ρ) := by
  simp only [List.filterMap_map, List.map_filterMap, Function.comp_def, foreignKey?_redraw]

lemma Link.sourceEnd_redraw : (l.redraw ρ).sourceEnd k = (l.sourceEnd k).redraw ρ := by
  rcases l with ⟨kind, name, source, target, sourceField, targetField, ⟨key, atSource⟩ | ⟨j, forward⟩⟩
  · cases atSource <;> rfl
  · rfl

lemma Link.targetEnd_redraw : (l.redraw ρ).targetEnd k = (l.targetEnd k).redraw ρ := by
  rcases l with ⟨kind, name, source, target, sourceField, targetField, ⟨key, atSource⟩ | ⟨j, forward⟩⟩
  · cases atSource <;> rfl
  · rfl

end Data

section Refl

lemma Entity.redraw_moving {ι : Nat → Nat} {hι : Function.Injective ι} (e : Entity) :
    e.redraw (.moving ι hι) = { e with index := ι e.index } :=
  congrArg (Entity.mk _ _ _) (List.map_id e.columns)

@[simp] lemma Entity.redraw_refl (e : Entity) : e.redraw .refl = e := congrArg (Entity.mk _ _ _) (List.map_id e.columns)

@[simp] lemma ForeignKey.redraw_refl (k : ForeignKey) : k.redraw .refl = k := by
  rw [redraw, Entity.redraw_refl, Entity.redraw_refl]

@[simp] lemma Junction.redraw_refl (j : Junction) : j.redraw .refl = j := by
  rw [redraw, JunctionSide.redraw, JunctionSide.redraw, Entity.redraw_refl, Entity.redraw_refl]

@[simp] lemma End.redraw_refl (e : End) : e.redraw .refl = e := by
  rcases e with ⟨_, _, _, _, _, _, _, _, _, ⟨key⟩ | ⟨key⟩ | ⟨j, atSource⟩⟩ <;> simp [redraw, Role.redraw]

end Refl

namespace Resolution

variable (ρ : Redrawing) (r : Resolution) (t : Nat)

lemma foreignKeys_redraw : (r.redraw ρ).foreignKeys = r.foreignKeys.map (·.redraw ρ) :=
  Link.foreignKeys_redraw ρ r.links

lemma ends_redraw : (r.redraw ρ).ends = r.ends.map (·.redraw ρ) := by
  simp only [ends, redraw, List.zipIdx_map, List.flatMap_map, List.map_flatMap, Prod.map, id, List.map_cons,
    List.map_nil, Link.sourceEnd_redraw, Link.targetEnd_redraw]

lemma endsOf_redraw : (r.redraw ρ).endsOf (ρ.index t) = (r.endsOf t).map (·.redraw ρ) := by
  have hlies : ∀ x : End, ((x.redraw ρ).entity.index == ρ.index t) = (x.entity.index == t) :=
    fun _ => ρ.injective.beq_eq
  simp only [endsOf, ends_redraw, List.filter_map, Function.comp_def, hlies]

lemma foreignKeysOf_redraw : (r.redraw ρ).foreignKeysOf (ρ.index t) = (r.foreignKeysOf t).map (·.redraw ρ) := by
  have hlies : ∀ k : ForeignKey, ((k.redraw ρ).owner.index == ρ.index t) = (k.owner.index == t) :=
    fun _ => ρ.injective.beq_eq
  simp only [foreignKeysOf, foreignKeys_redraw, List.filter_map, Function.comp_def, hlies]

end Resolution

end SchemaCode
