import SchemaCode.Proofs.Code.BackReferences
import SchemaCode.Proofs.Code.Constraints
import SchemaCode.Proofs.Rearranging.Reversing
import SchemaCode.Proofs.Relation.Junctions

namespace SchemaCode.Sequelize

variable {s : Schema} {r : Relationship} {k : Nat} {a b : End} {l : Link}

lemma associationsOf_ends (l : Link) (k : Nat) :
    associationsOf l = (callOrder [l.sourceEnd k, l.targetEnd k]).map associationOf := by
  rcases l with ⟨kind, name, source, target, sourceField, targetField, ⟨key, _ | _⟩ | ⟨j, _ | _⟩⟩
  · cases kind <;> rfl
  · cases kind <;> rfl
  · rfl
  · rfl

lemma callOrder_perm (σ : List End) : (callOrder σ).Perm σ := List.filter_append_perm _ σ

lemma associations_perm (r : Resolution) : (associations r).Perm (r.ends.map associationOf) := by
  have hcalls : ∀ p ∈ r.links.zipIdx,
      (associationsOf p.1).Perm ([p.1.sourceEnd p.2, p.1.targetEnd p.2].map associationOf) := by
    intro p _
    rw [associationsOf_ends p.1 p.2]
    exact (callOrder_perm _).map _
  rw [Resolution.ends, List.map_flatMap]
  conv_lhs => rw [associations, ← List.zipIdx_map_fst 0 r.links, List.flatMap_map]
  exact List.Perm.flatMap_left _ hcalls

lemma exists_associationsOf (l : Link) : ∃ x y, associationsOf l = [x, y] := by
  rcases l with ⟨kind, name, source, target, sourceField, targetField, ⟨key, _ | _⟩ | ⟨j, _ | _⟩⟩
  · exact ⟨_, _, rfl⟩
  · exact ⟨_, _, rfl⟩
  · exact ⟨_, _, rfl⟩
  · exact ⟨_, _, rfl⟩

lemma length_associations (r : Resolution) : (associations r).length = 2 * r.links.length := by
  rw [(associations_perm r).length_eq, List.length_map, Resolution.length_ends]

lemma getElem?_associationsOf {ls : List Link} {x y : Association} (hl : ls[k]? = some l)
    (h : associationsOf l = [x, y]) :
    (ls.flatMap associationsOf)[2 * k]? = some x ∧ (ls.flatMap associationsOf)[2 * k + 1]? = some y := by
  induction ls generalizing k with
  | nil => cases hl
  | cons l' ls ih =>
    obtain ⟨x', y', h'⟩ := exists_associationsOf l'
    cases k with
    | zero =>
      obtain rfl := Option.some.inj hl
      rw [List.flatMap_cons, h]
      exact ⟨rfl, rfl⟩
    | succ k =>
      rw [List.flatMap_cons, h']
      exact ih hl

def aliasesOn (r : Resolution) (t : Nat) : List String :=
  ((associations r).filter (·.model.index == t)).map (·.name)

lemma aliasesOn_perm (r : Resolution) (t : Nat) : (aliasesOn r t).Perm ((r.endsOf t).map (·.field)) := by
  have hperm := ((associations_perm r).filter (·.model.index == t)).map (·.name)
  rw [List.filter_map, List.map_map] at hperm
  exact hperm

lemma nodup_aliasesOn (s : Schema) (t : Nat) : (aliasesOn s.resolve t).Nodup :=
  (aliasesOn_perm s.resolve t).nodup_iff.mpr (Schema.nodup_fields s t)

lemma not_declares_alias {t : Nat} {x : String} (h : x ∈ aliasesOn s.resolve t) : ¬ s.Declares t x := by
  obtain ⟨e, he, rfl⟩ := List.mem_map.mp ((aliasesOn_perm s.resolve t).mem_iff.mp h)
  exact Schema.not_declares_field he

inductive Association.Spells : Association → String → Prop
  | hasOne (model related : Entity) (foreignKey sourceKey name : String) :
      Spells ⟨model, related, .hasOne foreignKey sourceKey, name⟩ (model.name ++ ".hasOne(" ++ related.name ++
        ", \x7b " ++ ", ".intercalate ["foreignKey: '" ++ foreignKey ++ "'", "sourceKey: '" ++ sourceKey ++ "'",
          "as: '" ++ name ++ "'"] ++ " \x7d);\n")
  | hasMany (model related : Entity) (foreignKey sourceKey name : String) :
      Spells ⟨model, related, .hasMany foreignKey sourceKey, name⟩ (model.name ++ ".hasMany(" ++ related.name ++
        ", \x7b " ++ ", ".intercalate ["foreignKey: '" ++ foreignKey ++ "'", "sourceKey: '" ++ sourceKey ++ "'",
          "as: '" ++ name ++ "'"] ++ " \x7d);\n")
  | belongsTo (model related : Entity) (foreignKey targetKey name : String) :
      Spells ⟨model, related, .belongsTo foreignKey targetKey, name⟩ (model.name ++ ".belongsTo(" ++ related.name ++
        ", \x7b " ++ ", ".intercalate ["foreignKey: '" ++ foreignKey ++ "'", "targetKey: '" ++ targetKey ++ "'",
          "as: '" ++ name ++ "'"] ++ " \x7d);\n")
  | belongsToMany (model related : Entity) (through foreignKey otherKey name : String) :
      Spells ⟨model, related, .belongsToMany through foreignKey otherKey, name⟩ (model.name ++ ".belongsToMany(" ++
        related.name ++ ", \x7b " ++ ", ".intercalate ["through: '" ++ through ++ "'",
          "foreignKey: '" ++ foreignKey ++ "'", "otherKey: '" ++ otherKey ++ "'", "as: '" ++ name ++ "'"] ++
            " \x7d);\n")

lemma Association.render_eq (x : Association) : x.render = x.model.name ++ ("." ++ x.call.method ++ "(") ++
    x.related.name ++ ", \x7b " ++ ", ".intercalate ((x.call.options ++ [("as", x.name)]).map fun (key, value) =>
      key ++ ": '" ++ value ++ "'") ++ " \x7d);\n" := by
  rw [render]
  simp only [String.append_assoc]

lemma Association.spells_render (x : Association) : x.Spells x.render := by
  rw [render_eq]
  rcases x with ⟨model, related, call, name⟩
  cases call with
  | hasOne foreignKey sourceKey => exact .hasOne model related foreignKey sourceKey name
  | hasMany foreignKey sourceKey => exact .hasMany model related foreignKey sourceKey name
  | belongsTo foreignKey targetKey => exact .belongsTo model related foreignKey targetKey name
  | belongsToMany through foreignKey otherKey => exact .belongsToMany model related through foreignKey otherKey name

structure CallsByKey (s : Schema) (r : Relationship) (key : ForeignKey) (owner inverse : End) (x y : Association) :
    Prop where
  owns : owner.Owns key inverse
  has : x = ⟨key.referenced, key.owner, if r.kind = .oneToOne then .hasOne key.column key.referencedColumn
    else .hasMany key.column key.referencedColumn, inverse.field⟩
  belongs : y = ⟨key.owner, key.referenced, .belongsTo key.column key.referencedColumn, owner.field⟩
  owner : key.owner ∈ s.entities
  defined : ∃ parts, List.Forall₂ Spells parts (lines s.resolve key.owner) ∧
    ∃ c key?, .column c key? ∈ parts ∧ c.name = key.column

structure CallsByJunction (s : Schema) (j : Junction) (forward : Bool) (a b : End) (x y : Association) : Prop where
  mem : j ∈ s.resolve.junctions
  roles : a.role = .junction j forward ∧ b.role = .junction j (!forward)
  source : x = ⟨a.entity, b.entity, .belongsToMany j.name (j.side forward).column (j.side !forward).column, a.field⟩
  target : y = ⟨b.entity, a.entity, .belongsToMany j.name (j.side !forward).column (j.side forward).column, b.field⟩
  columns : j.source.column ≠ j.target.column

def Calls (s : Schema) (r : Relationship) (a b : End) (x y : Association) : Prop :=
  if r.kind = .manyToMany then ∃ j forward, CallsByJunction s j forward a b x y
  else ∃ key ∈ s.resolve.foreignKeys, CallsByKey s r key a b x y ∨ CallsByKey s r key b a x y

lemma exists_attribute {key : ForeignKey} (h : key ∈ s.resolve.foreignKeys) :
    ∃ parts, List.Forall₂ Spells parts (lines s.resolve key.owner) ∧
      ∃ c key?, .column c key? ∈ parts ∧ c.name = key.column := by
  obtain ⟨column, hcolumn, hname⟩ := Schema.exists_mem_storedColumns h
  rw [← Resolution.columns_keyedColumns, ← columns_storedParts] at hcolumn
  obtain ⟨⟨c, key?⟩, hc, rfl⟩ := List.mem_map.mp hcolumn
  obtain ⟨p, hp, hcolumn⟩ := List.mem_filterMap.mp hc
  obtain rfl := Part.eq_column hcolumn
  exact ⟨_, spells_lines s.resolve key.owner, c, key?, hp, hname⟩

lemma callsByKey {key : ForeignKey} (hkey : key ∈ s.resolve.foreignKeys) (ho : a.Owns key b) (hab : s.Faces a b)
    (hba : s.Faces b a) (hkind : b.kind = r.kind) :
    CallsByKey s r key a b (associationOf b) (associationOf a) := by
  have hcardinality := (Resolution.cardinality_of_mem_ends hba.mem).2 key ho.inverse
  have hreferenced : key.referenced = b.entity := ho.references.trans hab.related
  refine ⟨ho, ?_, ?_, Schema.owner_mem_entities hkey, exists_attribute hkey⟩
  · rw [associationOf, ho.inverse, hcardinality, hkind, hreferenced, ho.table, ← hba.related]
    cases r.kind <;> rfl
  · rw [associationOf, ho.owner, ho.table, hreferenced, ← hab.related]

lemma callsByJunction {j : Junction} {forward : Bool} (hj : j ∈ s.resolve.junctions)
    (ha : a.role = .junction j forward) (hb : b.role = .junction j (!forward)) (hab : s.Faces a b)
    (hba : s.Faces b a) : CallsByJunction s j forward a b (associationOf a) (associationOf b) := by
  obtain ⟨i, hi⟩ := List.mem_iff_getElem?.mp hj
  refine ⟨hj, ⟨ha, hb⟩, ?_, ?_, (Schema.allocated_of_getElem? hi).columns⟩
  · rw [associationOf, ha, ← hab.related]
    cases forward <;> rfl
  · rw [associationOf, hb, ← hba.related]
    cases forward <;> rfl

lemma callOrder_of_owns {key : ForeignKey} (h : a.Owns key b) :
    callOrder [a, b] = [b, a] ∧ callOrder [b, a] = [b, a] := by
  simp [callOrder, Role.isInverse, h.owner, h.inverse]

lemma calls_of_pairs (p : s.Pairs k r a b) :
    ∃ x y, callOrder [a, b] = [x, y] ∧ Calls s r a b (associationOf x) (associationOf y) := by
  obtain ⟨hab, hba⟩ := p.faces
  unfold Calls
  by_cases h : r.kind = .manyToMany
  · simp only [if_pos h]
    obtain ⟨j, forward, hj, ha, hb, -⟩ := p.junction h
    refine ⟨a, b, ?_, j, forward, callsByJunction (List.mem_of_getElem? hj) ha hb hab hba⟩
    simp [callOrder, Role.isInverse, ha, hb]
  · simp only [if_neg h]
    obtain ⟨key, hk, -, -, ho | ho⟩ := p.key h
    · have hkey := List.mem_of_getElem? hk
      exact ⟨b, a, (callOrder_of_owns ho).1, key, hkey, .inl (callsByKey hkey ho hab hba p.kinds.2)⟩
    · have hkey := List.mem_of_getElem? hk
      exact ⟨a, b, (callOrder_of_owns ho).2, key, hkey, .inr (callsByKey hkey ho hba hab p.kinds.1)⟩

theorem associations_paired (s : Schema) :
    (∃ calls, List.Forall₂ Association.Spells (associations s.resolve) calls ∧ (s.tables ≠ [] →
      s.generate .sequelize = Format.sequelize.comment (Format.sequelize.title s.name) ++ "\n\n" ++
        (preamble ++ String.join (s.entities.map fun e => framed e (lines s.resolve e)) ++ below s.resolve calls))) ∧
      (associations s.resolve).length = 2 * s.usable.length ∧
      (∀ k r, s.usable[k]? = some r → ∃ a b x y, s.Pairs k r a b ∧
        (associations s.resolve)[2 * k]? = some x ∧ (associations s.resolve)[2 * k + 1]? = some y ∧
          Calls s r a b x y) ∧
      ∀ t, (aliasesOn s.resolve t).Nodup ∧ ∀ x ∈ aliasesOn s.resolve t, ¬ s.Declares t x := by
  refine ⟨⟨(associations s.resolve).map (·.render), ?_, ?_⟩, ?_, ?_,
    fun t => ⟨nodup_aliasesOn s t, fun x => not_declares_alias⟩⟩
  · rw [List.forall₂_map_right_iff, List.forall₂_same]
    exact fun x _ => x.spells_render
  · intro h
    rw [← Schema.entities_resolve, ← code_framed]
    exact Schema.generate_of_opening h .sequelize rfl
  · rw [length_associations]
    exact congrArg (2 * ·) (Schema.length_links_draftAfter s.relationships)
  · intro k r h
    obtain ⟨rs, _, _, l, m⟩ := Schema.exists_made h
    obtain ⟨x, y, horder, hcalls⟩ := calls_of_pairs m.pairs
    have hl : associationsOf l = [associationOf x, associationOf y] := by
      rw [associationsOf_ends l k, horder, List.map_cons, List.map_singleton]
    obtain ⟨hx, hy⟩ := getElem?_associationsOf m.link hl
    exact ⟨_, _, _, _, m.pairs, hx, hy, hcalls⟩

end SchemaCode.Sequelize
