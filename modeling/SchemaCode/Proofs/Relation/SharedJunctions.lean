import SchemaCode.Proofs.Relation.Ends

namespace SchemaCode

structure Joining where
  key : String
  source : Entity
  target : Entity

def Joining.Joins (x : Joining) (a b : Entity) : Prop :=
  x.source = a ∧ x.target = b ∨ x.source = b ∧ x.target = a

namespace Junction

def joining (j : Junction) : Joining := ⟨j.key, j.source.entity, j.target.entity⟩

def side (j : Junction) (atSource : Bool) : JunctionSide := if atSource then j.source else j.target

end Junction

/-- The end lies on its own side of the junction, and what it is related to on the other. -/
def End.LiesOn (e : End) (j : Junction) (atSource : Bool) : Prop :=
  (j.side atSource).entity = e.entity ∧ (j.side (!atSource)).entity = e.related

namespace Link

variable {l : Link} {j : Junction} {atSource : Bool}

lemma sourceRole_eq_junction_iff :
    l.sourceRole = .junction j atSource ↔ l.storage = .junction j atSource := by
  cases hs : l.storage with
  | column key b => cases b <;> simp [sourceRole, hs]
  | junction => simp [sourceRole, hs]

lemma targetRole_eq_junction_iff :
    l.targetRole = .junction j atSource ↔ l.storage = .junction j (!atSource) := by
  cases hs : l.storage with
  | column key b => cases b <;> simp [targetRole, hs]
  | junction => simp [targetRole, hs, Bool.not_eq_eq_eq_not]

end Link

namespace Schema

def joining? (s : Schema) (r : Relationship) : Option Joining :=
  if r.kind = .manyToMany then
    match s.entities.find? (·.id == r.source), s.entities.find? (·.id == r.target) with
    | some a, some b => some ⟨r.junctionKey a b, a, b⟩
    | _, _ => none
  else none

def joinings (s : Schema) : List Joining := s.relationships.filterMap s.joining?

variable {s : Schema} {k : Nat} {r : Relationship} {rs : List Relationship} {a b : Entity} {l : Link}

lemma joining?_eq_some (ha : s.First r.source a) (hb : s.First r.target b) (h : r.kind = .manyToMany) :
    s.joining? r = some ⟨r.junctionKey a b, a, b⟩ := by
  simp [joining?, h, find?_entities_iff.mpr ha, find?_entities_iff.mpr hb]

lemma joining?_eq_none_of_kind (h : r.kind ≠ .manyToMany) : s.joining? r = none := by
  simp [joining?, h]

lemma joining?_eq_none_of_uses (h : s.uses r = false) : s.joining? r = none := by
  unfold joining?
  split
  · split
    · rename_i a b ha hb
      rw [find?_entities_iff] at ha hb
      simp [uses_iff.mpr ⟨⟨a, ha⟩, b, hb⟩] at h
    · rfl
  · rfl

lemma find?_junctions_draftAfter (s : Schema) (rs : List Relationship) (key : String) :
    ((s.draftAfter rs).junctions.find? (·.key == key)).map (·.joining) =
      (rs.filterMap s.joining?).find? (·.key == key) := by
  induction rs using s.draftAfter_induction with
  | start => rfl
  | drop rs r n hr ih => simpa [Draft.notice, joining?_eq_none_of_uses hr] using ih
  | grow rs r a b l d hr ha hb hg ih =>
    rw [List.filterMap_append, List.find?_append, ← ih]
    by_cases hk : r.kind = .manyToMany
    -- whether the junction is shared or fresh, only the first one with a key counts
    · have hnew : [r].filterMap s.joining? = [⟨r.junctionKey a b, a, b⟩] :=
        List.filterMap_cons_some (joining?_eq_some ha hb hk)
      rw [hnew]
      obtain ⟨j, -, ⟨hf, hj⟩ | ⟨hf, rfl, hj⟩⟩ := hg.junction hk
      · rw [hj]
        by_cases he : r.junctionKey a b = key
        · rw [he] at hf
          simp [hf]
        · simp [he]
      · rw [hj, List.find?_append]
        by_cases he : r.junctionKey a b = key
        · rw [he] at hf
          simp [hf, he, Draft.freshJunction, Draft.newJunction, Junction.joining]
        · simp [he, Draft.freshJunction, Draft.newJunction]
    · obtain ⟨o, ho⟩ := Relationship.exists_ownership hk a b
      simp [(hg.key o ho).2, joining?_eq_none_of_kind hk]

lemma find?_junctions (s : Schema) (key : String) :
    (s.resolve.junctions.find? (·.key == key)).map (·.joining) = s.joinings.find? (·.key == key) :=
  find?_junctions_draftAfter s s.relationships key

lemma source_mem_of_joining? {x : Joining} (h : s.joining? r = some x) : x.source ∈ s.entities := by
  unfold joining? at h
  split at h
  · split at h
    · rename_i ha _
      obtain rfl := Option.some.inj h
      exact List.mem_of_find?_eq_some ha
    · exact absurd h (Option.some_ne_none x).symm
  · exact absurd h (Option.some_ne_none x).symm

lemma sides_iff {j : Junction} (hs : j.source.entity ∈ s.entities) (ha : a ∈ s.entities) :
    ((j.side (j.source.entity.index == a.index)).entity = a ∧
        (j.side !(j.source.entity.index == a.index)).entity = b) ↔ j.joining.Joins a b := by
  -- both tables of a junction may be one and the same, so the test on its source decides which way it lies
  by_cases hi : j.source.entity.index = a.index
  · obtain rfl := eq_of_index_eq hs ha hi
    simp only [beq_self_eq_true, Junction.side, Junction.joining, Joining.Joins, Bool.not_true,
      Bool.false_eq_true, if_true, if_false, true_and]
    constructor
    · exact .inl
    · rintro (h | ⟨hb, h⟩)
      · exact h
      · exact h.trans hb
  · have hne : j.source.entity ≠ a := fun h => hi (congrArg Entity.index h)
    simp [Junction.side, Junction.joining, Joining.Joins, hi, hne, and_comm]

lemma Made.liesOn_iff (m : s.Made k r rs a b l) {j : Junction} {forward : Bool}
    (h : l.storage = .junction j forward) :
    r.kind = .manyToMany ∧ s.resolve.junctions[j.index]? = some j ∧
      ∃ first, s.joinings.find? (·.key == r.junctionKey a b) = some first ∧
        ((l.sourceEnd k).LiesOn j forward ↔ first.Joins a b) ∧
        ((l.targetEnd k).LiesOn j (!forward) ↔ first.Joins a b) := by
  have hk : r.kind = .manyToMany := by
    by_contra hk
    obtain ⟨o, ho⟩ := Relationship.exists_ownership hk a b
    rw [(m.grows.key o ho).1] at h
    exact Storage.noConfusion h
  obtain ⟨j', hj, hf⟩ := m.exists_junction hk
  obtain ⟨rfl, rfl⟩ : j' = j ∧ (j'.source.entity.index == a.index) = forward := by
    simpa [hj] using h
  have hfirst := find?_junctions s (r.junctionKey a b)
  rw [hf, Option.map_some] at hfirst
  obtain ⟨r', -, hr'⟩ := List.mem_filterMap.mp (List.mem_of_find?_eq_some hfirst.symm)
  have hsides := sides_iff (b := b) (source_mem_of_joining? hr') m.source.mem
  refine ⟨hk, getElem?_junction (List.mem_of_find?_eq_some hf), j'.joining, hfirst.symm, ?_, ?_⟩
  · simpa [End.LiesOn, Link.sourceEnd, m.grows.source, m.grows.target] using hsides
  · simpa [End.LiesOn, Link.targetEnd, m.grows.source, m.grows.target, and_comm] using hsides

/-- An end lies on its junction as its role says just if the first relationship that asked for the junction
joins the same two tables as the end's own relationship. -/
theorem liesOn_junction_iff (s : Schema) {e : End} {j : Junction} {atSource : Bool} (he : e ∈ s.resolve.ends)
    (hr : e.role = .junction j atSource) :
    ∃ k r a b first, (e.index = 2 * k ∨ e.index = 2 * k + 1) ∧ s.usable[k]? = some r ∧ r.kind = .manyToMany ∧
      s.First r.source a ∧ s.First r.target b ∧ s.resolve.junctions[j.index]? = some j ∧
      s.joinings.find? (·.key == r.junctionKey a b) = some first ∧
        (e.LiesOn j atSource ↔ first.Joins a b) := by
  obtain ⟨i, hi⟩ := List.mem_iff_getElem?.mp he
  obtain ⟨k, l, hl, ⟨-, rfl⟩ | ⟨-, rfl⟩⟩ := Resolution.exists_link_of_end hi
  · obtain ⟨r, rs, a, b, hu, m⟩ := exists_made_of_link hl
    obtain ⟨hk, hindex, first, hfirst, hlies, -⟩ := m.liesOn_iff (Link.sourceRole_eq_junction_iff.mp hr)
    exact ⟨k, r, a, b, first, .inl rfl, hu, hk, m.source, m.target, hindex, hfirst, hlies⟩
  · obtain ⟨r, rs, a, b, hu, m⟩ := exists_made_of_link hl
    obtain ⟨hk, hindex, first, hfirst, -, hlies⟩ := m.liesOn_iff (Link.targetRole_eq_junction_iff.mp hr)
    rw [Bool.not_not] at hlies
    exact ⟨k, r, a, b, first, .inr rfl, hu, hk, m.source, m.target, hindex, hfirst, hlies⟩

def crossedLinks : Schema where
  tables := [
    { id := "a", name := "User", columns := some [{ name := "id", type := .uuid, primary := true }] },
    { id := "b", name := "Team", columns := some [{ name := "id", type := .uuid, primary := true }] },
    { id := "c", name := "Post", columns := some [{ name := "id", type := .uuid, primary := true }] }]
  relationships := [
    { source := "a", target := "b", declared := some .manyToMany, through := some "links" },
    { source := "c", target := "b", declared := some .manyToMany, through := some "links" }]

theorem liesOn_junction_iff_crossedLinks :
    ∃ e ∈ crossedLinks.resolve.ends, ∃ j atSource, e.role = .junction j atSource ∧
      ∃ k r a b first, (e.index = 2 * k ∨ e.index = 2 * k + 1) ∧ crossedLinks.usable[k]? = some r ∧
        r.kind = .manyToMany ∧ crossedLinks.First r.source a ∧ crossedLinks.First r.target b ∧
        crossedLinks.resolve.junctions[j.index]? = some j ∧
        crossedLinks.joinings.find? (·.key == r.junctionKey a b) = some first ∧
        (e.LiesOn j atSource ↔ first.Joins a b) := by
  obtain ⟨rs, a, b, l, m⟩ := exists_made (s := crossedLinks) (k := 1) rfl
  obtain ⟨j, forward, -, hrole, -⟩ := m.pairs.junction rfl
  have he := List.mem_of_getElem? m.pairs.first
  exact ⟨l.sourceEnd 1, he, j, forward, hrole, liesOn_junction_iff crossedLinks he hrole⟩

theorem crossedLinks_not_liesOn :
    ∃ e ∈ crossedLinks.resolve.ends, ∃ j atSource, e.role = .junction j atSource ∧ ¬ e.LiesOn j atSource := by
  obtain ⟨rs, a, b, l, m⟩ := exists_made (s := crossedLinks) (k := 1) rfl
  obtain ⟨j, forward, -, hrole, -⟩ := m.pairs.junction rfl
  refine ⟨l.sourceEnd 1, List.mem_of_getElem? m.pairs.first, j, forward, hrole, ?_⟩
  obtain ⟨-, -, first, hfirst, hlies, -⟩ := m.liesOn_iff (Link.sourceRole_eq_junction_iff.mp hrole)
  rw [hlies]
  have ha : (crossedLinks.entities.find? (·.id == "c")).map (·.index) = some 2 := rfl
  have hf : (crossedLinks.joinings.find? (·.key == "links")).map (fun x => (x.source.index, x.target.index)) =
    some (0, 1) := rfl
  rw [find?_entities_iff.mpr m.source, Option.map_some, Option.some.injEq] at ha
  rw [show crossedLinks.joinings.find? (·.key == "links") = some first from hfirst, Option.map_some,
    Option.some.injEq, Prod.mk.injEq] at hf
  rintro (⟨rfl, -⟩ | ⟨-, rfl⟩)
  · omega
  · omega

end Schema

end SchemaCode
