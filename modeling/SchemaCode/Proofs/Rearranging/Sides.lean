import SchemaCode.Proofs.Redrawing.Looks
import SchemaCode.Proofs.Relation.Naming

/-! The two sides of a link, whichever way it was drawn. Those on a table decide what is in use and stored there. -/

namespace SchemaCode

@[simp] lemma RelationKind.inverseCardinality_undirected (k : RelationKind) :
    k.undirected.inverseCardinality = k.inverseCardinality := by cases k <;> rfl

namespace Link

def sides (l : Link) : List End :=
  match l.storage with
  | .column _ false => [(l.targetEnd 0).seen, (l.sourceEnd 0).seen]
  | .column _ true => [(l.sourceEnd 0).seen, (l.targetEnd 0).seen]
  | .junction .. => [(l.sourceEnd 0).seen, (l.targetEnd 0).seen]

structure InPlace (l : Link) : Prop where
  owner : l.KeyInPlace
  apart : ∀ key, l.storage = .column key false → l.source.index ≠ l.target.index

variable {l : Link} {t : Nat} {x : String}

lemma mem_sides {e : End} : e ∈ l.sides ↔ e = (l.sourceEnd 0).seen ∨ e = (l.targetEnd 0).seen := by
  unfold sides
  split
  · simp [or_comm]
  · simp
  · simp

lemma ends_seen (h : l.InPlace) (k t : Nat) :
    ([l.sourceEnd k, l.targetEnd k].filter (·.entity.index == t)).map (·.seen) =
      l.sides.filter (·.entity.index == t) := by
  have hseen : ([l.sourceEnd k, l.targetEnd k].filter (·.entity.index == t)).map (·.seen) =
      [(l.sourceEnd 0).seen, (l.targetEnd 0).seen].filter (·.entity.index == t) :=
    (List.filter_map (l := [l.sourceEnd k, l.targetEnd k]) (f := End.seen) (p := fun e => e.entity.index == t)).symm
  rw [hseen]
  unfold sides
  split
  · rename_i key hs
    have hne := h.apart key hs
    -- the two lie on different tables, so at most one of them is left
    by_cases hsource : l.source.index = t
    · have htarget : l.target.index ≠ t := fun ht => hne (hsource.trans ht.symm)
      simp [End.seen, sourceEnd, targetEnd, hsource, htarget]
    · simp [List.filter_cons, End.seen, sourceEnd, targetEnd, hsource]
  · rfl
  · rfl

lemma ownedKeys_sides (l : Link) :
    l.sides.filterMap (·.role.ownedKey?) = l.foreignKey?.toList.map (·.seen) := by
  rcases l with ⟨kind, name, source, target, sourceField, targetField, ⟨key, _ | _⟩ | ⟨j, forward⟩⟩ <;> rfl

lemma owner_of_mem_sides (h : l.InPlace) {e : End} (he : e ∈ l.sides) {key : ForeignKey}
    (hk : e.role.ownedKey? = some key) : key.owner = e.entity := by
  have howner := h.owner
  rcases l with ⟨kind, name, source, target, sourceField, targetField, ⟨k, _ | _⟩ | ⟨j, forward⟩⟩
  all_goals
    simp only [mem_sides] at he
    rcases he with rfl | rfl <;> cases hk
  · exact howner k false rfl
  · exact howner k true rfl

lemma exists_key_iff (h : l.InPlace) {p : ForeignKey → Prop} (hp : ∀ key, p key.seen ↔ p key) :
    (∃ key, l.foreignKey? = some key ∧ key.owner.index = t ∧ p key) ↔
      ∃ e ∈ l.sides, e.entity.index = t ∧ ∃ key, e.role.ownedKey? = some key ∧ p key := by
  have hkeys : ∀ key, (∃ e ∈ l.sides, e.role.ownedKey? = some key) ↔ ∃ k, l.foreignKey? = some k ∧ k.seen = key := by
    intro key
    have hmem := congrArg (key ∈ ·) l.ownedKeys_sides
    simpa [List.mem_filterMap] using hmem
  constructor
  · rintro ⟨key, hl, ht, hkey⟩
    obtain ⟨e, he, hrole⟩ := (hkeys key.seen).mpr ⟨key, hl, rfl⟩
    have howner := owner_of_mem_sides h he hrole
    refine ⟨e, he, ?_, key.seen, hrole, (hp key).mpr hkey⟩
    rw [← howner]
    exact ht
  · rintro ⟨e, he, rfl, key, hrole, hkey⟩
    obtain ⟨k, hl, rfl⟩ := (hkeys key).mp ⟨e, he, hrole⟩
    have howner : k.seen.owner = e.entity := owner_of_mem_sides h he hrole
    exact ⟨k, hl, congrArg Entity.index howner, (hp k).mp hkey⟩

lemma mem_fieldsOn_iff : x ∈ l.fieldsOn t ↔ ∃ e ∈ l.sides, e.entity.index = t ∧ e.field = x := by
  simp only [mem_fieldsOn, mem_sides, exists_eq_or_imp, exists_eq_left]
  rfl

lemma adds_iff (h : l.InPlace) : l.Adds t x ↔
    ∃ e ∈ l.sides, e.entity.index = t ∧
      ∃ key, e.role.ownedKey? = some key ∧ key.synthesized = true ∧ key.column = x := by
  rw [← exists_key_iff h (p := fun key => key.synthesized = true ∧ key.column = x) fun _ => Iff.rfl]
  simp only [Adds, and_left_comm]

end Link

namespace Draft

variable {d : Draft} {t : Nat}

def sides (d : Draft) : List (List End) := d.links.map (·.sides)

def sidesOn (d : Draft) (t : Nat) : List End := d.sides.flatten.filter (·.entity.index == t)

lemma mem_sidesOn {e : End} : e ∈ d.sidesOn t ↔ ∃ l ∈ d.links, e ∈ l.sides ∧ e.entity.index = t := by
  simp [sidesOn, sides]

lemma exists_mem_links_iff {P : Link → Prop} {Q : End → Prop}
    (h : ∀ l ∈ d.links, P l ↔ ∃ e ∈ l.sides, e.entity.index = t ∧ Q e) :
    (∃ l ∈ d.links, P l) ↔ ∃ e ∈ d.sidesOn t, Q e := by
  constructor
  · rintro ⟨l, hl, hp⟩
    obtain ⟨e, he, ht, hq⟩ := (h l hl).mp hp
    exact ⟨e, mem_sidesOn.mpr ⟨l, hl, he, ht⟩, hq⟩
  · rintro ⟨e, he, hq⟩
    obtain ⟨l, hl, hmem, ht⟩ := mem_sidesOn.mp he
    exact ⟨l, hl, (h l hl).mpr ⟨e, hmem, ht, hq⟩⟩

end Draft

namespace Schema

variable {s : Schema} {rs : List Relationship} {r : Relationship} {a b : Entity} {t : Nat} {x : String}

lemma inPlace_of_mem_links {l : Link} (hl : l ∈ (s.draftAfter rs).links) : l.InPlace := by
  let before : Schema := { s with relationships := rs }
  have hlink : l ∈ before.resolve.links := hl
  refine ⟨keyInPlace hlink, ?_⟩
  intro key hs he
  obtain ⟨k, hk⟩ := List.mem_iff_getElem?.mp hlink
  obtain ⟨r, rs, a, b, -, m⟩ := exists_made_of_link hk
  obtain ⟨o, ho, -, hsource⟩ := m.exists_ownership hs
  have hi : o.owner.index ≠ a.index := beq_eq_false_iff_ne.mp hsource.symm
  rw [m.grows.source, m.grows.target, ← ((m.sides ho).2 hi).1] at he
  exact hi he.symm

lemma contains_members_iff_sidesOn (rs : List Relationship) :
    (s.draftAfter rs).names.contains (.members t) x = true ↔ s.Declares t x ∨ ∃ e ∈ (s.draftAfter rs).sidesOn t,
      e.field = x ∨ ∃ key, e.role.ownedKey? = some key ∧ key.synthesized = true ∧ key.column = x := by
  rw [contains_members_draftAfter]
  apply or_congr_right
  apply Draft.exists_mem_links_iff
  intro l hl
  rw [Link.mem_fieldsOn_iff, Link.adds_iff (inPlace_of_mem_links hl)]
  simp only [and_or_left, exists_or]

lemma stores_iff_sidesOn (rs : List Relationship) (e : Entity) :
    (s.draftAfter rs).stores e x = true ↔ e.hasColumn x = true ∨
      ∃ y ∈ (s.draftAfter rs).sidesOn e.index, ∃ key, y.role.ownedKey? = some key ∧ key.column = x := by
  have hkeys : ((s.draftAfter rs).foreignKeys.any fun k => k.owner.index == e.index && k.column == x) = true ↔
      ∃ l ∈ (s.draftAfter rs).links, ∃ key, l.foreignKey? = some key ∧ key.owner.index = e.index ∧ key.column = x := by
    simp only [Draft.foreignKeys, List.any_eq_true, List.mem_filterMap, Bool.and_eq_true, beq_iff_eq]
    constructor
    · rintro ⟨key, ⟨l, hl, hkey⟩, h⟩
      exact ⟨l, hl, key, hkey, h⟩
    · rintro ⟨l, hl, key, hkey, h⟩
      exact ⟨key, ⟨l, hl, hkey⟩, h⟩
  rw [Draft.stores, Bool.or_eq_true, hkeys]
  apply or_congr_right
  apply Draft.exists_mem_links_iff
  intro l hl
  exact Link.exists_key_iff (inPlace_of_mem_links hl) fun _ => Iff.rfl

end Schema

def Ownership.sides (o : Ownership) (kind : RelationKind) (key : ForeignKey) (owned inverse : String) : List End :=
  [⟨0, 0, kind.undirected, o.owner, o.referenced, owned, inverse, .one, "", .owner key.seen⟩,
    ⟨0, 0, kind.undirected, o.referenced, o.owner, inverse, owned, kind.inverseCardinality, "", .inverse key.seen⟩]

def Junction.sides (j : Junction) (a b : Entity) (source target : String) : List End :=
  [⟨0, 0, .manyToMany, a, b, source, target, .many, "", .junction j (j.source.entity.index == a.index)⟩,
    ⟨0, 0, .manyToMany, b, a, target, source, .many, "", .junction j (!(j.source.entity.index == a.index))⟩]

namespace Draft

variable {d : Draft} {r : Relationship} {a b : Entity} {o : Ownership}

lemma sides_addLink (d : Draft) (l : Link) : (d.addLink l).sides = d.sides ++ [l.sides] := List.map_append

lemma sides_linkByKey (name : String) (hsource : o.owner.index = a.index → o.owner = a ∧ o.referenced = b)
    (htarget : o.owner.index ≠ a.index → o.owner = b ∧ o.referenced = a) :
    let owned := (d.reserve (d.foreignKey o)).claim (.members o.owner.index) (fieldName o.referenced.lowerName .one)
    let inverse := owned.2.claim (.members o.referenced.index)
      (fieldName o.owner.lowerName r.kind.inverseCardinality)
    (d.linkByKey r a b name o).sides = d.sides ++ [o.sides r.kind (d.foreignKey o) owned.1 inverse.1] := by
  intro owned inverse
  have hlinks : inverse.2.sides = d.sides := congrArg (List.map _) (links_reserve d (d.foreignKey o))
  rw [linkByKey_eq, sides_addLink, hlinks]
  by_cases hi : o.owner.index = a.index
  · obtain ⟨rfl, rfl⟩ := hsource hi
    rw [beq_self_eq_true]
    rfl
  · obtain ⟨rfl, rfl⟩ := htarget hi
    rw [beq_eq_false_iff_ne.mpr hi]
    rfl

lemma sides_linkByJunction (name : String) (hk : r.kind = .manyToMany) :
    let stored := d.junction r a b
    let source := stored.2.claim (.members a.index) (fieldName b.lowerName .many)
    let target := source.2.claim (.members b.index) (fieldName a.lowerName .many)
    (d.linkByJunction r a b name).sides = d.sides ++ [stored.1.sides a b source.1 target.1] := by
  intro stored source target
  have hlinks : target.2.sides = d.sides := congrArg (List.map _) (names_junction d r a b).1
  rw [linkByJunction_eq, sides_addLink, hlinks, hk]
  rfl

end Draft

end SchemaCode
