import SchemaCode.Proofs.Redrawing.Code
import SchemaCode.Proofs.Rearranging.Sides

/-! Lists of relationships that leave the same sides on some tables can be continued alike. -/

namespace SchemaCode

namespace Names

def AgreeOn (P : Scope → Prop) (n n' : Names) : Prop :=
  ∀ scope, P scope → ∀ x, n'.contains scope x = n.contains scope x

variable {P : Scope → Prop} {n n' : Names} {scope : Scope}

lemma AgreeOn.fresh (h : n.AgreeOn P n') (hs : P scope) (base : String) :
    n'.fresh scope base = n.fresh scope base := fresh_congr (h scope hs) base

lemma AgreeOn.insert (h : n.AgreeOn P n') (scope : Scope) (x : String) :
    (n.insert scope x).AgreeOn P (n'.insert scope x) := by
  intro scope' hs y
  rw [Bool.eq_iff_iff, contains_insert_iff, contains_insert_iff, h scope' hs]

lemma AgreeOn.insert_other (h : n.AgreeOn P n') (hs : ¬ P scope) (x y : String) :
    (n.insert scope x).AgreeOn P (n'.insert scope y) := by
  intro scope' hs' z
  have hne : scope ≠ scope' := fun he => hs (he ▸ hs')
  rw [Bool.eq_iff_iff, contains_insert_iff, contains_insert_iff, h scope' hs']
  simp [hne]

end Names

namespace RelationKind

def reversed : RelationKind → RelationKind
  | .oneToMany => .manyToOne
  | .manyToOne => .oneToMany
  | k => k

@[simp] lemma undirected_reversed (k : RelationKind) : k.reversed.undirected = k.undirected := by cases k <;> rfl

end RelationKind

namespace Relationship

def reversed (r : Relationship) : Relationship :=
  { r with
    source := r.target
    target := r.source
    sourceKey := r.targetKey
    targetKey := r.sourceKey
    declared := some r.kind.reversed }

def Directed (r : Relationship) : Prop := r.kind = .oneToMany ∨ r.kind = .manyToOne

def Alike (r r' : Relationship) : Prop := r' = r ∨ r.Directed ∧ r' = r.reversed

variable {r : Relationship}

lemma ownership?_reversed (h : r.Directed) (a b : Entity) : r.reversed.ownership? b a = r.ownership? a b := by
  have hkind : r.reversed.kind = r.kind.reversed := rfl
  rcases h with h | h
  · rw [ownership?, ownership?, hkind, h]
    rfl
  · rw [ownership?, ownership?, hkind, h]
    rfl

end Relationship

namespace Draft

structure Concurs (P : Scope → Prop) (d d' : Draft) : Prop where
  junctions : d'.junctions = d.junctions
  names : d.names.AgreeOn P d'.names
  stores : ∀ e : Entity, P (.members e.index) → ∀ x, d'.stores e x = d.stores e x

variable {P : Scope → Prop} {d d' : Draft} {r r' : Relationship} {a b a' b' : Entity} {o : Ownership}

lemma link_eq_linkByKey (d : Draft) (h : r.ownership? a b = some o) :
    d.link r a b = (d.claim .relations (r.relationName a b)).2.linkByKey r a b
      (d.claim .relations (r.relationName a b)).1 o := by
  simp only [link, h]

lemma link_eq_linkByJunction (d : Draft) (a b : Entity) (h : r.kind = .manyToMany) :
    d.link r a b = (d.claim .relations (r.relationName a b)).2.linkByJunction r a b
      (d.claim .relations (r.relationName a b)).1 := by
  simp only [link, Relationship.ownership?_eq_none_iff.mpr h]

@[simp] lemma stores_reserve (d : Draft) (key : ForeignKey) (e : Entity) (x : String) :
    (d.reserve key).stores e x = d.stores e x := by
  rw [stores, foreignKeys, links_reserve]
  rfl

namespace Concurs

variable (h : d.Concurs P d')

include h

lemma claim {scope : Scope} (hs : P scope) (base : String) :
    (d'.claim scope base).1 = (d.claim scope base).1 ∧
      (d.claim scope base).2.Concurs P (d'.claim scope base).2 := by
  have hfresh := h.names.fresh hs base
  refine ⟨hfresh, h.junctions, ?_, h.stores⟩
  show Names.AgreeOn P _ (d'.names.insert scope (d'.names.fresh scope base))
  rw [hfresh]
  exact h.names.insert scope _

lemma claim_other (scope : Scope) (hs : ¬ P scope) (base base' : String) :
    (d.claim scope base).2.Concurs P (d'.claim scope base').2 :=
  ⟨h.junctions, h.names.insert_other hs _ _, h.stores⟩

lemma reserve {key key' : ForeignKey} (hkey : key'.seen = key.seen) :
    (d.reserve key).Concurs P (d'.reserve key') where
  junctions := by rw [junctions_reserve, junctions_reserve, h.junctions]
  names := by
    have hsynthesized : key'.synthesized = key.synthesized := (congrArg ForeignKey.synthesized hkey :)
    have howner : key'.owner = key.owner := (congrArg ForeignKey.owner hkey :)
    have hcolumn : key'.column = key.column := (congrArg ForeignKey.column hkey :)
    rw [Draft.reserve, Draft.reserve, hsynthesized, howner, hcolumn]
    split
    · exact h.names.insert _ _
    · exact h.names
  stores e he x := by rw [stores_reserve, stores_reserve, h.stores e he]

lemma foreignKey (howner : P (.members o.owner.index)) : (d'.foreignKey o).seen = (d.foreignKey o).seen := by
  simp only [Draft.foreignKey, ForeignKey.seen, h.stores o.owner howner]

lemma junction (hs : P .storage) (r : Relationship) (a b : Entity) :
    (d'.junction r a b).1 = (d.junction r a b).1 ∧ (d.junction r a b).2.Concurs P (d'.junction r a b).2 := by
  cases hf : d.junctions.find? (·.key == r.junctionKey a b) with
  | some j =>
    rw [junction_of_find? hf, junction_of_find? (h.junctions ▸ hf)]
    exact ⟨rfl, h⟩
  | none =>
    obtain ⟨ns, hj⟩ := junction_of_find?_eq_none hf
    obtain ⟨ns', hj'⟩ := junction_of_find?_eq_none (h.junctions ▸ hf)
    rw [hj, hj', h.junctions, h.names.fresh hs]
    exact ⟨rfl, rfl, h.names.insert .storage _, h.stores⟩

lemma linkByKey (howner : P (.members o.owner.index)) (hreferenced : P (.members o.referenced.index))
    (hkind : r'.kind.undirected = r.kind.undirected)
    (hsides : (o.owner.index = a.index → o.owner = a ∧ o.referenced = b) ∧
      (o.owner.index ≠ a.index → o.owner = b ∧ o.referenced = a))
    (hsides' : (o.owner.index = a'.index → o.owner = a' ∧ o.referenced = b') ∧
      (o.owner.index ≠ a'.index → o.owner = b' ∧ o.referenced = a')) (name name' : String) :
    ∃ σ, (d.linkByKey r a b name o).sides = d.sides ++ [σ] ∧
      (d'.linkByKey r' a' b' name' o).sides = d'.sides ++ [σ] ∧
      (d'.linkByKey r' a' b' name' o).junctions = (d.linkByKey r a b name o).junctions ∧
      ∀ e ∈ σ, e.entity = o.owner ∨ e.entity = o.referenced := by
  have hcardinality : r'.kind.inverseCardinality = r.kind.inverseCardinality := by
    rw [← RelationKind.inverseCardinality_undirected, hkind, RelationKind.inverseCardinality_undirected]
  have hkey := h.foreignKey howner
  obtain ⟨howned, h₁⟩ := (h.reserve hkey).claim howner (fieldName o.referenced.lowerName .one)
  obtain ⟨hinverse, -⟩ := h₁.claim hreferenced (fieldName o.owner.lowerName r.kind.inverseCardinality)
  refine ⟨_, sides_linkByKey name hsides.1 hsides.2, ?_, h₁.junctions, ?_⟩
  · rw [sides_linkByKey name' hsides'.1 hsides'.2, hcardinality, howned, hinverse]
    simp only [Ownership.sides, hkey, hkind, hcardinality]
  · simp [Ownership.sides]

lemma linkByJunction (hs : P .storage) (ha : P (.members a.index)) (hb : P (.members b.index))
    (hk : r.kind = .manyToMany) (name name' : String) :
    ∃ σ, (d.linkByJunction r a b name).sides = d.sides ++ [σ] ∧
      (d'.linkByJunction r a b name').sides = d'.sides ++ [σ] ∧
      (d'.linkByJunction r a b name').junctions = (d.linkByJunction r a b name).junctions ∧
      ∀ e ∈ σ, e.entity = a ∨ e.entity = b := by
  obtain ⟨hstored, h₁⟩ := h.junction hs r a b
  obtain ⟨hsource, h₂⟩ := h₁.claim ha (fieldName b.lowerName .many)
  obtain ⟨htarget, h₃⟩ := h₂.claim hb (fieldName a.lowerName .many)
  refine ⟨_, sides_linkByJunction name hk, ?_, h₃.junctions, ?_⟩
  · rw [sides_linkByJunction name' hk, hstored, hsource, htarget]
  · simp [Junction.sides]

end Concurs

end Draft

namespace Schema

/-- Both lists of relationships lead to the same junctions, and to the same sides on the tables of `T`. -/
structure AlikeOn (s : Schema) (T : Nat → Prop) (rs rs' : List Relationship) : Prop where
  junctions : (s.draftAfter rs').junctions = (s.draftAfter rs).junctions
  sides : ∀ t, T t → (s.draftAfter rs').sidesOn t = (s.draftAfter rs).sidesOn t

def scopesOf (T : Nat → Prop) : Scope → Prop
  | .relations => False
  | .storage => True
  | .members t => T t

variable {s : Schema} {T : Nat → Prop} {rs rs' : List Relationship} {r r' : Relationship} {a b : Entity}

lemma AlikeOn.concurs (h : s.AlikeOn T rs rs') :
    (s.draftAfter rs).Concurs (scopesOf T) (s.draftAfter rs') where
  junctions := h.junctions
  names := by
    intro scope hs x
    cases scope with
    | relations => exact absurd hs id
    | storage => rw [Bool.eq_iff_iff, contains_storage_draftAfter, contains_storage_draftAfter, h.junctions]
    | members t => rw [Bool.eq_iff_iff, contains_members_iff_sidesOn, contains_members_iff_sidesOn, h.sides t hs]
  stores := by
    intro e he x
    rw [Bool.eq_iff_iff, stores_iff_sidesOn, stores_iff_sidesOn, h.sides _ he]

lemma exists_sides_of_ownership {o : Ownership} {a' b' : Entity} (h : s.AlikeOn T rs rs')
    (ho : r.ownership? a b = some o) (ho' : r'.ownership? a' b' = some o)
    (hkind : r'.kind.undirected = r.kind.undirected) (ha : s.First r.source a) (hb : s.First r.target b)
    (ha' : s.First r'.source a') (hb' : s.First r'.target b') (hTa : T a.index) (hTb : T b.index) :
    ∃ σ, (s.draftAfter (rs ++ [r])).sides = (s.draftAfter rs).sides ++ [σ] ∧
      (s.draftAfter (rs' ++ [r'])).sides = (s.draftAfter rs').sides ++ [σ] ∧
      (s.draftAfter (rs' ++ [r'])).junctions = (s.draftAfter (rs ++ [r])).junctions ∧
      ∀ e ∈ σ, e.entity = a ∨ e.entity = b := by
  have hsides := ownership_sides ha.mem hb.mem ho
  have hends : (o.owner = a ∧ o.referenced = b) ∨ (o.owner = b ∧ o.referenced = a) := by
    by_cases hi : o.owner.index = a.index
    · exact .inl (hsides.1 hi)
    · exact .inr (hsides.2 hi)
  have hP : T o.owner.index ∧ T o.referenced.index := by
    rcases hends with ⟨ho, hr⟩ | ⟨ho, hr⟩
    · exact ⟨ho ▸ hTa, hr ▸ hTb⟩
    · exact ⟨ho ▸ hTb, hr ▸ hTa⟩
  -- what the relations are called may differ from here on, as no side shows it
  have hclaimed := h.concurs.claim_other .relations id (r.relationName a b) (r'.relationName a' b')
  obtain ⟨σ, hσ, hσ', hj, hlie⟩ := hclaimed.linkByKey hP.1 hP.2 hkind hsides
    (ownership_sides ha'.mem hb'.mem ho') _ _
  rw [draftAfter_concat_eq_link ha hb, draftAfter_concat_eq_link ha' hb', Draft.link_eq_linkByKey _ ho,
    Draft.link_eq_linkByKey _ ho']
  refine ⟨σ, hσ, hσ', hj, ?_⟩
  intro e he
  rcases hends with ⟨ho, hr⟩ | ⟨ho, hr⟩
  · exact ho ▸ hr ▸ hlie e he
  · exact (ho ▸ hr ▸ hlie e he).symm

lemma AlikeOn.exists_sides (h : s.AlikeOn T rs rs') (hr : r.Alike r') (ha : s.First r.source a)
    (hb : s.First r.target b) (hTa : T a.index) (hTb : T b.index) :
    ∃ σ, (s.draftAfter (rs ++ [r])).sides = (s.draftAfter rs).sides ++ [σ] ∧
      (s.draftAfter (rs' ++ [r'])).sides = (s.draftAfter rs').sides ++ [σ] ∧
      (s.draftAfter (rs' ++ [r'])).junctions = (s.draftAfter (rs ++ [r])).junctions ∧
      ∀ e ∈ σ, e.entity = a ∨ e.entity = b := by
  rcases hr with rfl | ⟨hdirected, rfl⟩
  · cases ho : r'.ownership? a b with
    | some o => exact exists_sides_of_ownership h ho ho rfl ha hb ha hb hTa hTb
    | none =>
      have hk := Relationship.ownership?_eq_none_iff.mp ho
      have hclaimed := h.concurs.claim_other .relations id (r'.relationName a b) (r'.relationName a b)
      rw [draftAfter_concat_eq_link ha hb, draftAfter_concat_eq_link ha hb, Draft.link_eq_linkByJunction _ _ _ hk,
        Draft.link_eq_linkByJunction _ _ _ hk]
      exact hclaimed.linkByJunction trivial hTa hTb hk _ _
  -- drawn the other way round, the relationship is still owned by the same table
  · have hk : r.kind ≠ .manyToMany := by rcases hdirected with hk | hk <;> simp [hk]
    obtain ⟨o, ho⟩ := Relationship.exists_ownership hk a b
    have ho' : r.reversed.ownership? b a = some o := (r.ownership?_reversed hdirected a b).trans ho
    exact exists_sides_of_ownership h ho ho' r.kind.undirected_reversed ha hb hb ha hTa hTb

lemma draftAfter_of_not_uses (rs : List Relationship) (h : s.uses r = false) :
    (s.draftAfter (rs ++ [r])).sides = (s.draftAfter rs).sides ∧
      (s.draftAfter (rs ++ [r])).junctions = (s.draftAfter rs).junctions := by
  rcases draftAfter_cases rs r with ⟨hr, -⟩ | ⟨-, n, hn⟩
  · exact absurd (h.symm.trans hr) Bool.false_ne_true
  · rw [hn]
    exact ⟨rfl, rfl⟩

lemma uses_reversed (r : Relationship) : s.uses r.reversed = s.uses r := Bool.and_comm _ _

lemma AlikeOn.concat (h : s.AlikeOn (fun _ => True) rs rs') (hr : r.Alike r') :
    ∃ σs, (s.draftAfter (rs ++ [r])).sides = (s.draftAfter rs).sides ++ σs ∧
      (s.draftAfter (rs' ++ [r'])).sides = (s.draftAfter rs').sides ++ σs ∧
      (s.draftAfter (rs' ++ [r'])).junctions = (s.draftAfter (rs ++ [r])).junctions := by
  cases huses : s.uses r with
  | true =>
    obtain ⟨⟨a, ha⟩, b, hb⟩ := uses_iff.mp huses
    obtain ⟨σ, hσ, hσ', hj, -⟩ := h.exists_sides hr ha hb trivial trivial
    exact ⟨[σ], hσ, hσ', hj⟩
  | false =>
    have huses' : s.uses r' = false := by
      rcases hr with rfl | ⟨-, rfl⟩
      · exact huses
      · rw [uses_reversed, huses]
    obtain ⟨hsides, hj⟩ := draftAfter_of_not_uses rs huses
    obtain ⟨hsides', hj'⟩ := draftAfter_of_not_uses rs' huses'
    exact ⟨[], by rw [hsides, List.append_nil], by rw [hsides', List.append_nil], by rw [hj', hj, h.junctions]⟩

def relating (s : Schema) (rs : List Relationship) : Schema := { s with relationships := rs }

lemma seen_endsOf (rs : List Relationship) (t : Nat) :
    ((s.relating rs).resolve.endsOf t).map (·.seen) = (s.draftAfter rs).sidesOn t := by
  have hlinks : ∀ l ∈ (s.relating rs).resolve.links, ∀ k,
      ([l.sourceEnd k, l.targetEnd k].filter (·.entity.index == t)).flatMap (fun e => [e.seen]) =
        l.sides.filter (·.entity.index == t) := by
    intro l hl k
    rw [← List.map_eq_flatMap]
    exact Link.ends_seen (inPlace_of_mem_links hl) k t
  rw [List.map_eq_flatMap, Resolution.flatMap_endsOf hlinks, Draft.sidesOn, Draft.sides, ← List.flatMap_def,
    List.filter_flatMap]
  rfl

lemma seen_foreignKeysOf (rs : List Relationship) (t : Nat) :
    ((s.relating rs).resolve.foreignKeysOf t).map (·.seen) =
      ((s.draftAfter rs).sidesOn t).filterMap (·.role.ownedKey?) := by
  have hrole : ∀ e : End, e.seen.role.ownedKey? = e.role.ownedKey?.map (·.seen) := by
    rintro ⟨_, _, _, _, _, _, _, _, _, ⟨key⟩ | ⟨key⟩ | ⟨j, atSource⟩⟩ <;> rfl
  rw [← Resolution.ownedKeys_endsOf (fun l hl => keyInPlace hl), ← seen_endsOf, List.filterMap_map, List.map_filterMap]
  simp only [Function.comp_def, hrole]

lemma AlikeOn.looksLike (h : s.AlikeOn (fun _ => True) rs rs') :
    (s.relating rs).resolve.LooksLike .refl (s.relating rs').resolve where
  entities := by
    rw [entities_resolve, entities_resolve]
    simp [relating, entities]
  junctions := by
    have hj : (s.relating rs').resolve.junctions = (s.relating rs).resolve.junctions := h.junctions
    simp [hj]
  ends t := by
    simp only [End.redraw_refl]
    exact (seen_endsOf rs' t).trans ((h.sides t trivial).trans (seen_endsOf rs t).symm)
  keys t := by
    simp only [ForeignKey.redraw_refl]
    refine (seen_foreignKeysOf rs' t).trans (Eq.trans ?_ (seen_foreignKeysOf rs t).symm)
    rw [h.sides t trivial]

lemma generate_relating (s : Schema) (rs rs' : List Relationship) (f : Format)
    (h : f.code (s.relating rs').resolve = f.code (s.relating rs).resolve) :
    (s.relating rs).generate f = (s.relating rs').generate f := by
  symm
  exact generate_congr rfl rfl h

end Schema

end SchemaCode
