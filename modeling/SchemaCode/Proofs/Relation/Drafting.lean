import Mathlib.Data.List.Basic
import SchemaCode.Proofs.Relation.Entities
import SchemaCode.Relation.Resolve

namespace SchemaCode

namespace Relationship

variable {r : Relationship} {a b : Entity} {o : Ownership}

lemma ownership?_eq_none_iff : r.ownership? a b = none ↔ r.kind = .manyToMany := by
  cases h : r.kind <;> simp [ownership?, h]

lemma exists_ownership (h : r.kind ≠ .manyToMany) (a b : Entity) : ∃ o, r.ownership? a b = some o :=
  Option.ne_none_iff_exists'.mp (mt ownership?_eq_none_iff.mp h)

lemma kind_ne_manyToMany (h : r.ownership? a b = some o) : r.kind ≠ .manyToMany := by
  intro hk
  simp [ownership?_eq_none_iff.mpr hk] at h

lemma owner_eq (h : r.ownership? a b = some o) : o.owner = if r.kind = .oneToMany then b else a := by
  cases hk : r.kind <;> simp [ownership?, hk] at h <;> simp [← h]

lemma referenced_eq (h : r.ownership? a b = some o) :
    o.referenced = if r.kind = .oneToMany then a else b := by
  cases hk : r.kind <;> simp [ownership?, hk] at h <;> simp [← h]

lemma unique_iff (h : r.ownership? a b = some o) : o.unique = true ↔ r.kind = .oneToOne := by
  cases hk : r.kind <;> simp [ownership?, hk] at h <;> simp [← h]

end Relationship

namespace Draft

section Fields

variable (d : Draft) (scope : Scope) (base : String) (key : ForeignKey) (o : Ownership)

@[simp] lemma entities_claim : (d.claim scope base).2.entities = d.entities := rfl
@[simp] lemma links_claim : (d.claim scope base).2.links = d.links := rfl
@[simp] lemma junctions_claim : (d.claim scope base).2.junctions = d.junctions := rfl
@[simp] lemma foreignKey_claim : (d.claim scope base).2.foreignKey o = d.foreignKey o := rfl

@[simp] lemma entities_reserve : (d.reserve key).entities = d.entities := by
  unfold reserve
  split <;> rfl

@[simp] lemma links_reserve : (d.reserve key).links = d.links := by
  unfold reserve
  split <;> rfl

@[simp] lemma junctions_reserve : (d.reserve key).junctions = d.junctions := by
  unfold reserve
  split <;> rfl

end Fields

def freshJunction (d : Draft) (r : Relationship) (a b : Entity) : Junction :=
  newJunction d.junctions.length (r.junctionKey a b)
    ((d.claim .relations (r.relationName a b)).2.names.fresh .storage (r.junctionKey a b)) a b
    (keyColumn r.sourceKey) (keyColumn r.targetKey)

structure Grows (d d' : Draft) (r : Relationship) (a b : Entity) (l : Link) : Prop where
  entities : d'.entities = d.entities
  links : d'.links = d.links ++ [l]
  kind : l.kind = r.kind
  source : l.source = a
  target : l.target = b
  key : ∀ o, r.ownership? a b = some o →
    l.storage = .column (d.foreignKey o) (o.owner.index == a.index) ∧ d'.junctions = d.junctions
  junction : r.kind = .manyToMany → ∃ j, l.storage = .junction j (j.source.entity.index == a.index) ∧
    (d.junctions.find? (·.key == r.junctionKey a b) = some j ∧ d'.junctions = d.junctions ∨
      d.junctions.find? (·.key == r.junctionKey a b) = none ∧ j = d.freshJunction r a b ∧
        d'.junctions = d.junctions ++ [j])

variable {d : Draft} {r : Relationship} {a b : Entity} {o : Ownership}

lemma junction_of_find? {j : Junction} (h : d.junctions.find? (·.key == r.junctionKey a b) = some j) :
    d.junction r a b = (j, d) := by
  simp only [junction, h]

lemma junction_of_find?_eq_none (h : d.junctions.find? (·.key == r.junctionKey a b) = none) :
    ∃ notices,
      let name := d.names.fresh .storage (r.junctionKey a b)
      let j := newJunction d.junctions.length (r.junctionKey a b) name a b
        (keyColumn r.sourceKey) (keyColumn r.targetKey)
      d.junction r a b =
        (j, { d with names := d.names.insert .storage name, notices, junctions := d.junctions ++ [j] }) := by
  simp only [junction, h]
  split
  · exact ⟨_, rfl⟩
  · exact ⟨_, rfl⟩

lemma linkByKey_eq (d : Draft) (r : Relationship) (a b : Entity) (name : String) (o : Ownership) :
    let owned := (d.reserve (d.foreignKey o)).claim (.members o.owner.index) (fieldName o.referenced.lowerName .one)
    let inverse := owned.2.claim (.members o.referenced.index)
      (fieldName o.owner.lowerName r.kind.inverseCardinality)
    let atSource := o.owner.index == a.index
    d.linkByKey r a b name o = inverse.2.addLink
      ⟨r.kind, name, a, b, if atSource then owned.1 else inverse.1, if atSource then inverse.1 else owned.1,
        .column (d.foreignKey o) atSource⟩ := rfl

lemma linkByJunction_eq (d : Draft) (r : Relationship) (a b : Entity) (name : String) :
    let stored := d.junction r a b
    let source := stored.2.claim (.members a.index) (fieldName b.lowerName .many)
    let target := source.2.claim (.members b.index) (fieldName a.lowerName .many)
    d.linkByJunction r a b name = target.2.addLink
      ⟨r.kind, name, a, b, source.1, target.1, .junction stored.1 (stored.1.source.entity.index == a.index)⟩ := rfl

lemma grows_linkByKey (name : String) (h : r.ownership? a b = some o) :
    ∃ l, d.Grows ((d.claim .relations (r.relationName a b)).2.linkByKey r a b name o) r a b l := by
  -- the goal about the links comes first and settles `l`: it is what `addLink` puts at the end
  refine ⟨_, ?_, congrArg (· ++ [_]) ?_, rfl, rfl, rfl, ?_, ?_⟩
  · simp [linkByKey, addLink]
  · simp
  · intro o' ho
    obtain rfl := Option.some.inj (h.symm.trans ho)
    simp [linkByKey, addLink]
  · intro hk
    exact absurd hk (Relationship.kind_ne_manyToMany h)

lemma grows_linkByJunction (name : String) (h : r.kind = .manyToMany) :
    ∃ l, d.Grows ((d.claim .relations (r.relationName a b)).2.linkByJunction r a b name) r a b l := by
  have hkey : ∀ o, r.ownership? a b ≠ some o := fun o ho => Relationship.kind_ne_manyToMany ho h
  unfold linkByJunction
  cases hf : d.junctions.find? (·.key == r.junctionKey a b) with
  | some j =>
    rw [junction_of_find? (d := (d.claim .relations (r.relationName a b)).2) hf]
    refine ⟨_, ?_, congrArg (· ++ [_]) ?_, rfl, rfl, rfl, fun o ho => absurd ho (hkey o),
      fun _ => ⟨j, rfl, .inl ?_⟩⟩
    · simp [addLink]
    · simp
    · simp [addLink, hf]
  | none =>
    obtain ⟨notices, hj⟩ := junction_of_find?_eq_none (d := (d.claim .relations (r.relationName a b)).2) hf
    rw [hj]
    refine ⟨_, ?_, congrArg (· ++ [_]) ?_, rfl, rfl, rfl, fun o ho => absurd ho (hkey o),
      fun _ => ⟨_, rfl, .inr ?_⟩⟩
    · simp [addLink]
    · simp
    · simp [addLink, hf, freshJunction]

lemma add_cases (d : Draft) (r : Relationship) :
    (∃ a b l, d.find? r.source = some a ∧ d.find? r.target = some b ∧ d.Grows (d.add r) r a b l) ∨
      ((d.find? r.source = none ∨ d.find? r.target = none) ∧ ∃ n, d.add r = d.notice n) := by
  unfold add
  cases ha : d.find? r.source with
  | none => exact .inr ⟨.inl rfl, _, rfl⟩
  | some a =>
    cases hb : d.find? r.target with
    | none => exact .inr ⟨.inr rfl, _, rfl⟩
    | some b =>
      have hg : ∃ l, d.Grows (d.link r a b) r a b l := by
        unfold link
        cases ho : r.ownership? a b with
        | none => exact grows_linkByJunction _ (Relationship.ownership?_eq_none_iff.mp ho)
        | some o => exact grows_linkByKey _ ho
      obtain ⟨l, hl⟩ := hg
      exact .inl ⟨a, b, l, rfl, rfl, hl⟩

lemma Grows.foreignKeys {d' : Draft} {l : Link} (h : d.Grows d' r a b l) :
    d'.foreignKeys = d.foreignKeys ++ l.foreignKey?.toList := by
  simp only [Draft.foreignKeys, h.links, List.filterMap_append, List.append_cancel_left_eq]
  cases hk : l.foreignKey? <;> simp [hk]

lemma Grows.foreignKey?_isSome {d' : Draft} {l : Link} (h : d.Grows d' r a b l) :
    l.foreignKey?.isSome = (r.kind != .manyToMany) := by
  cases ho : r.ownership? a b with
  | none =>
    have hk := Relationship.ownership?_eq_none_iff.mp ho
    obtain ⟨j, hj, -⟩ := h.junction hk
    simp [Link.foreignKey?, hj, hk]
  | some o => simp [Link.foreignKey?, (h.key o ho).1, Relationship.kind_ne_manyToMany ho]

lemma Grows.junctions_cases {d' : Draft} {l : Link} (h : d.Grows d' r a b l) :
    d'.junctions = d.junctions ∨ r.kind = .manyToMany ∧
      d.junctions.find? (·.key == r.junctionKey a b) = none ∧
        d'.junctions = d.junctions ++ [d.freshJunction r a b] := by
  cases ho : r.ownership? a b with
  | none =>
    have hk := Relationship.ownership?_eq_none_iff.mp ho
    obtain ⟨j, -, ⟨-, hj⟩ | ⟨hf, rfl, hj⟩⟩ := h.junction hk
    · exact .inl hj
    · exact .inr ⟨hk, hf, hj⟩
  | some o => exact .inl (h.key o ho).2

lemma entities_add (d : Draft) (r : Relationship) : (d.add r).entities = d.entities := by
  rcases add_cases d r with ⟨a, b, l, -, -, hg⟩ | ⟨-, n, hn⟩
  · exact hg.entities
  · rw [hn]
    rfl

lemma prefix_add (d : Draft) (r : Relationship) :
    d.links <+: (d.add r).links ∧ d.junctions <+: (d.add r).junctions := by
  rcases add_cases d r with ⟨a, b, l, -, -, hg⟩ | ⟨-, n, hn⟩
  · refine ⟨hg.links ▸ List.prefix_append _ _, ?_⟩
    rcases hg.junctions_cases with hj | ⟨-, -, hj⟩
    · exact hj ▸ List.prefix_rfl
    · exact hj ▸ List.prefix_append _ _
  · exact hn ▸ ⟨List.prefix_rfl, List.prefix_rfl⟩

end Draft

end SchemaCode
