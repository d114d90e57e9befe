import Mathlib.Data.List.Find
import SchemaCode.Proofs.Relation.Naming
import SchemaCode.Proofs.Redrawing.Resolution

namespace SchemaCode

variable {ρ : Redrawing}

section Data

variable (ρ)

def Scope.redraw : Scope → Scope
  | .relations => .relations
  | .storage => .storage
  | .members t => .members (ρ.index t)

def Ownership.redraw (o : Ownership) : Ownership :=
  { o with owner := o.owner.redraw ρ, referenced := o.referenced.redraw ρ }

end Data

lemma Scope.redraw_injective : Function.Injective (Scope.redraw ρ) := by
  intro a b h
  cases a <;> cases b <;> simp_all [redraw, ρ.injective.eq_iff]

@[simp] lemma Ownership.reusesLocal_redraw (o : Ownership) : (o.redraw ρ).reusesLocal = o.reusesLocal := by
  rw [reusesLocal, redraw, Entity.column?_redraw, reusesLocal]
  cases o.owner.column? o.localKey <;> rfl

@[simp] lemma Ownership.standIn_redraw (o : Ownership) : (o.redraw ρ).standIn = o.standIn := rfl

@[simp] lemma Ownership.column_redraw (o : Ownership) : (o.redraw ρ).column = o.column := by
  rw [column, reusesLocal_redraw, column]
  rfl

lemma Relationship.ownership?_redraw (r : Relationship) (a b : Entity) :
    r.ownership? (a.redraw ρ) (b.redraw ρ) = (r.ownership? a b).map (·.redraw ρ) := by
  rw [ownership?, ownership?]
  cases r.kind <;> rfl

namespace Draft

lemma newJunction_redraw (i : Nat) (key name : String) (a b : Entity) (sourceKey targetKey : String) :
    newJunction i key name (a.redraw ρ) (b.redraw ρ) sourceKey targetKey =
      (newJunction i key name a b sourceKey targetKey).redraw ρ := by
  simp only [newJunction, Entity.typeOf_redraw, Entity.lowerName_redraw]
  rfl

structure Redraws (ρ : Redrawing) (d d' : Draft) : Prop where
  entities : d'.entities = d.entities.map (·.redraw ρ)
  links : d'.links = d.links.map (·.redraw ρ)
  junctions : d'.junctions = d.junctions.map (·.redraw ρ)
  names : ∀ scope x, d'.names.contains (scope.redraw ρ) x = d.names.contains scope x

variable {d d' : Draft}

namespace Redraws

lemma notices (h : d.Redraws ρ d') (ns ns' : List Notice) :
    Redraws ρ { d with notices := ns } { d' with notices := ns' } :=
  ⟨h.entities, h.links, h.junctions, h.names⟩

lemma find? (h : d.Redraws ρ d') {id : String} (hid : ∀ e ∈ d.entities, ρ.id e.id = ρ.id id → e.id = id) :
    d'.find? (ρ.id id) = (d.find? id).map (·.redraw ρ) := by
  rw [Draft.find?, h.entities, List.find?_map]
  apply congrArg
  apply List.find?_congr
  intro e he
  show (ρ.id e.id == ρ.id id) = (e.id == id)
  rw [Bool.eq_iff_iff, beq_iff_eq, beq_iff_eq]
  exact ⟨hid e he, congrArg ρ.id⟩

lemma foreignKeys (h : d.Redraws ρ d') : d'.foreignKeys = d.foreignKeys.map (·.redraw ρ) := by
  rw [Draft.foreignKeys, h.links, Link.foreignKeys_redraw]
  rfl

lemma addLink (h : d.Redraws ρ d') (l : Link) : (d.addLink l).Redraws ρ (d'.addLink (l.redraw ρ)) where
  entities := h.entities
  links := by rw [Draft.addLink, Draft.addLink, h.links, List.map_append, List.map_singleton]
  junctions := h.junctions
  names := h.names

lemma names_insert (h : d.Redraws ρ d') (scope : Scope) (x : String) (scope' : Scope) (y : String) :
    (d'.names.insert (scope.redraw ρ) x).contains (scope'.redraw ρ) y =
      (d.names.insert scope x).contains scope' y := by
  rw [Bool.eq_iff_iff, Names.contains_insert_iff, Names.contains_insert_iff, h.names, Scope.redraw_injective.eq_iff]

lemma claim (h : d.Redraws ρ d') (scope : Scope) (base : String) :
    (d'.claim (scope.redraw ρ) base).1 = (d.claim scope base).1 ∧
      (d.claim scope base).2.Redraws ρ (d'.claim (scope.redraw ρ) base).2 := by
  have hfresh : d'.names.fresh (scope.redraw ρ) base = d.names.fresh scope base :=
    Names.fresh_congr (h.names scope) base
  refine ⟨hfresh, h.entities, h.links, h.junctions, ?_⟩
  intro scope' x
  show (d'.names.insert _ (d'.names.fresh _ _)).contains _ _ = _
  rw [hfresh]
  exact h.names_insert scope _ scope' x

lemma reserve (h : d.Redraws ρ d') (key : ForeignKey) : (d.reserve key).Redraws ρ (d'.reserve (key.redraw ρ)) := by
  have hsynthesized : (key.redraw ρ).synthesized = key.synthesized := rfl
  rw [Draft.reserve, Draft.reserve, hsynthesized]
  split
  · exact ⟨h.entities, h.links, h.junctions, h.names_insert (.members key.owner.index) key.column⟩
  · exact h

lemma foreignKey (h : d.Redraws ρ d') (o : Ownership) : d'.foreignKey (o.redraw ρ) = (d.foreignKey o).redraw ρ := by
  have hstores : d'.stores (o.redraw ρ).owner o.standIn = d.stores o.owner o.standIn := by
    have hcolumn : ∀ k : ForeignKey, ((k.redraw ρ).owner.index == (o.redraw ρ).owner.index &&
        (k.redraw ρ).column == o.standIn) = (k.owner.index == o.owner.index && k.column == o.standIn) :=
      fun _ => congrArg (· && _) ρ.injective.beq_eq
    have howner : (o.redraw ρ).owner.hasColumn o.standIn = o.owner.hasColumn o.standIn :=
      o.owner.hasColumn_redraw ρ o.standIn
    simp only [Draft.stores, h.foreignKeys, List.any_map, Function.comp_def, hcolumn, howner]
  have hcount : d'.foreignKeys.length = d.foreignKeys.length := by rw [h.foreignKeys, List.length_map]
  have htype : (o.redraw ρ).referenced.typeOf (keyColumn o.referencedKey) =
      o.referenced.typeOf (keyColumn o.referencedKey) := o.referenced.typeOf_redraw ρ _
  rw [Draft.foreignKey, Draft.foreignKey, ForeignKey.redraw, hcount, o.column_redraw, o.reusesLocal_redraw,
    o.standIn_redraw, hstores]
  exact congrArg (ForeignKey.mk _ _ _ · _ _ _ _) htype

lemma junction (h : d.Redraws ρ d') (r : Relationship) (a b : Entity) :
    (d'.junction r (a.redraw ρ) (b.redraw ρ)).1 = (d.junction r a b).1.redraw ρ ∧
      (d.junction r a b).2.Redraws ρ (d'.junction r (a.redraw ρ) (b.redraw ρ)).2 := by
  have hfound : d'.junctions.find? (·.key == r.junctionKey (a.redraw ρ) (b.redraw ρ)) =
      (d.junctions.find? (·.key == r.junctionKey a b)).map (·.redraw ρ) := by
    rw [h.junctions, List.find?_map]
    rfl
  cases hf : d.junctions.find? (·.key == r.junctionKey a b) with
  | some j =>
    rw [hf, Option.map_some] at hfound
    rw [junction_of_find? hf, junction_of_find? hfound]
    exact ⟨rfl, h⟩
  | none =>
    rw [hf, Option.map_none] at hfound
    obtain ⟨ns, hj⟩ := junction_of_find?_eq_none hf
    obtain ⟨ns', hj'⟩ := junction_of_find?_eq_none hfound
    have hfresh : d'.names.fresh .storage (r.junctionKey a b) = d.names.fresh .storage (r.junctionKey a b) :=
      Names.fresh_congr (h.names .storage) _
    have hcount : d'.junctions.length = d.junctions.length := by rw [h.junctions, List.length_map]
    have hkey : r.junctionKey (a.redraw ρ) (b.redraw ρ) = r.junctionKey a b := rfl
    rw [hj, hj', hkey, hfresh, hcount, newJunction_redraw]
    refine ⟨rfl, h.entities, h.links, ?_, h.names_insert .storage _⟩
    show d'.junctions ++ [_] = (d.junctions ++ [_]).map _
    rw [h.junctions, List.map_append]
    rfl

lemma linkByKey (h : d.Redraws ρ d') (r : Relationship) (a b : Entity) (name : String) (o : Ownership) :
    (d.linkByKey r a b name o).Redraws ρ
      (d'.linkByKey r (a.redraw ρ) (b.redraw ρ) name (o.redraw ρ)) := by
  obtain ⟨howned, h₁⟩ := (h.reserve (d.foreignKey o)).claim (.members o.owner.index)
    (fieldName o.referenced.lowerName .one)
  obtain ⟨hinverse, h₂⟩ := h₁.claim (.members o.referenced.index)
    (fieldName o.owner.lowerName r.kind.inverseCardinality)
  simp only [Scope.redraw] at howned hinverse h₂
  rw [linkByKey_eq, linkByKey_eq, h.foreignKey o]
  simp only [Ownership.redraw, Entity.index_redraw, Entity.lowerName_redraw, howned, hinverse, ρ.injective.beq_eq]
  exact h₂.addLink _

lemma linkByJunction (h : d.Redraws ρ d') (r : Relationship) (a b : Entity) (name : String) :
    (d.linkByJunction r a b name).Redraws ρ (d'.linkByJunction r (a.redraw ρ) (b.redraw ρ) name) := by
  obtain ⟨hstored, h₁⟩ := h.junction r a b
  obtain ⟨hsource, h₂⟩ := h₁.claim (.members a.index) (fieldName b.lowerName .many)
  obtain ⟨htarget, h₃⟩ := h₂.claim (.members b.index) (fieldName a.lowerName .many)
  have hforward : ((d'.junction r (a.redraw ρ) (b.redraw ρ)).1.source.entity.index == (a.redraw ρ).index) =
      ((d.junction r a b).1.source.entity.index == a.index) := by
    rw [hstored]
    exact ρ.injective.beq_eq
  simp only [Scope.redraw] at hsource htarget h₃
  rw [linkByJunction_eq, linkByJunction_eq, hforward, hstored]
  simp only [Entity.index_redraw, Entity.lowerName_redraw, hsource, htarget]
  exact h₃.addLink _

lemma link (h : d.Redraws ρ d') (r : Relationship) (a b : Entity) :
    (d.link r a b).Redraws ρ (d'.link r (a.redraw ρ) (b.redraw ρ)) := by
  have hname : r.relationName (a.redraw ρ) (b.redraw ρ) = r.relationName a b := rfl
  obtain ⟨hrelation, h₁⟩ := h.claim .relations (r.relationName a b)
  simp only [Scope.redraw] at hrelation h₁
  rw [Draft.link, Draft.link, r.ownership?_redraw, hname]
  cases r.ownership? a b with
  | none =>
    show Redraws ρ _ (Draft.linkByJunction _ r _ _ (d'.claim .relations (r.relationName a b)).1)
    rw [hrelation]
    exact h₁.linkByJunction r a b _
  | some o =>
    show Redraws ρ _ (Draft.linkByKey _ r _ _ (d'.claim .relations (r.relationName a b)).1 _)
    rw [hrelation]
    exact h₁.linkByKey r a b _ o

lemma add (h : d.Redraws ρ d') {r r' : Relationship} (hlink : ∀ d a b, Draft.link d r' a b = Draft.link d r a b)
    (hsource : d'.find? r'.source = (d.find? r.source).map (·.redraw ρ))
    (htarget : d'.find? r'.target = (d.find? r.target).map (·.redraw ρ)) : (d.add r).Redraws ρ (d'.add r') := by
  rw [Draft.add, Draft.add, hsource, htarget]
  cases d.find? r.source with
  | none => exact h.notices _ _
  | some a =>
    cases d.find? r.target with
    | none => exact h.notices _ _
    | some b =>
      show Redraws ρ _ (Draft.link _ r' _ _)
      rw [hlink]
      exact h.link r a b

end Redraws

lemma contains_initialNames_redraw (es : List Entity) (scope : Scope) (x : String) :
    (initialNames (es.map (·.redraw ρ))).contains (scope.redraw ρ) x = (initialNames es).contains scope x := by
  have hmembers : ∀ e : Entity, Scope.members (e.redraw ρ).index = scope.redraw ρ ↔ .members e.index = scope :=
    fun e => Scope.redraw_injective.eq_iff (a := .members e.index)
  have hstorage : Scope.storage = scope.redraw ρ ↔ .storage = scope :=
    Scope.redraw_injective.eq_iff (a := .storage)
  have hcolumns : ∀ e : Entity, (∃ c ∈ (e.redraw ρ).columns, c.name = x) ↔ ∃ c ∈ e.columns, c.name = x := by
    intro e
    simp [Entity.redraw, Column.redraw]
  rw [Bool.eq_iff_iff, contains_initialNames_iff, contains_initialNames_iff]
  simp only [List.mem_map, exists_exists_and_eq_and, hmembers, hstorage, hcolumns, Entity.lowerName_redraw]

lemma redraws_start {s s' : Schema} (h : s'.entities = s.entities.map (·.redraw ρ)) :
    (start s).Redraws ρ (start s') where
  entities := h
  links := rfl
  junctions := rfl
  names := by
    intro scope x
    rw [start, start, h]
    exact contains_initialNames_redraw s.entities scope x

end Draft

end SchemaCode
