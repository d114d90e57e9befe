import SchemaCode.Proofs.Relation.History

namespace SchemaCode

namespace End

structure Opposes (a b : End) : Prop where
  kind : a.kind = b.kind
  relation : a.relation = b.relation
  entity : a.entity = b.related
  related : a.related = b.entity

structure Owns (a : End) (key : ForeignKey) (b : End) : Prop where
  owner : a.role = .owner key
  inverse : b.role = .inverse key
  cardinality : a.cardinality = .one
  table : key.owner = a.entity
  references : key.referenced = a.related

lemma Opposes.symm {a b : End} (h : a.Opposes b) : b.Opposes a :=
  ⟨h.kind.symm, h.relation.symm, h.related.symm, h.entity.symm⟩

end End

namespace Link

lemma sourceEnd_opposes (l : Link) (k : Nat) : (l.sourceEnd k).Opposes (l.targetEnd k) :=
  ⟨rfl, rfl, rfl, rfl⟩

end Link

namespace Resolution

lemma getElem?_pairs (ls : List Link) (n k : Nat) :
    ((ls.zipIdx n).flatMap fun (l, k) => [l.sourceEnd k, l.targetEnd k])[2 * k]? =
        ls[k]?.map (·.sourceEnd (n + k)) ∧
      ((ls.zipIdx n).flatMap fun (l, k) => [l.sourceEnd k, l.targetEnd k])[2 * k + 1]? =
        ls[k]?.map (·.targetEnd (n + k)) := by
  induction ls generalizing n k with
  | nil => simp
  | cons l ls ih =>
    cases k with
    | zero => simp
    | succ k =>
      have hn : n + (k + 1) = n + 1 + k := by omega
      simpa [Nat.mul_add, hn] using ih (n + 1) k

variable (r : Resolution) (k : Nat)

lemma getElem?_ends_even : r.ends[2 * k]? = r.links[k]?.map (·.sourceEnd k) := by
  simpa [ends] using (getElem?_pairs r.links 0 k).1

lemma getElem?_ends_odd : r.ends[2 * k + 1]? = r.links[k]?.map (·.targetEnd k) := by
  simpa [ends] using (getElem?_pairs r.links 0 k).2

lemma length_ends : r.ends.length = 2 * r.links.length := by
  simp [ends, List.length_flatMap, Nat.mul_comm]

lemma exists_link_of_end {r : Resolution} {i : Nat} {e : End} (h : r.ends[i]? = some e) :
    ∃ k l, r.links[k]? = some l ∧ (i = 2 * k ∧ e = l.sourceEnd k ∨ i = 2 * k + 1 ∧ e = l.targetEnd k) := by
  obtain ⟨k, rfl | rfl⟩ : ∃ k, i = 2 * k ∨ i = 2 * k + 1 := ⟨i / 2, by omega⟩
  · rw [getElem?_ends_even, Option.map_eq_some_iff] at h
    obtain ⟨l, hl, rfl⟩ := h
    exact ⟨k, l, hl, .inl ⟨rfl, rfl⟩⟩
  · rw [getElem?_ends_odd, Option.map_eq_some_iff] at h
    obtain ⟨l, hl, rfl⟩ := h
    exact ⟨k, l, hl, .inr ⟨rfl, rfl⟩⟩

lemma flatMap_endsOf {β : Type} {r : Resolution} {f : End → List β} {g : Link → List β} {t : Nat}
    (h : ∀ l ∈ r.links, ∀ k, ([l.sourceEnd k, l.targetEnd k].filter (·.entity.index == t)).flatMap f = g l) :
    (r.endsOf t).flatMap f = r.links.flatMap g := by
  rw [endsOf, ends, List.filter_flatMap, List.flatMap_assoc]
  conv_rhs => rw [← List.zipIdx_map_fst 0 r.links, List.flatMap_map]
  apply List.flatMap_congr
  rintro ⟨l, k⟩ hl
  exact h l (List.fst_mem_of_mem_zipIdx hl) k

lemma exists_inverse {r : Resolution} {i : Nat} {e : End} (h : r.ends[i]? = some e) :
    e.index = i ∧ e.inverse ≠ i ∧ ∃ e', r.ends[e.inverse]? = some e' ∧ e'.inverse = i ∧ e.Opposes e' := by
  obtain ⟨k, l, hl, ⟨rfl, rfl⟩ | ⟨rfl, rfl⟩⟩ := exists_link_of_end h
  · have hodd := getElem?_ends_odd r k
    rw [hl] at hodd
    exact ⟨rfl, Nat.succ_ne_self _, l.targetEnd k, hodd, rfl, l.sourceEnd_opposes k⟩
  · have heven := getElem?_ends_even r k
    rw [hl] at heven
    exact ⟨rfl, (Nat.succ_ne_self _).symm, l.sourceEnd k, heven, rfl, (l.sourceEnd_opposes k).symm⟩

end Resolution

namespace Schema

variable {s : Schema} {k : Nat} {r : Relationship} {rs : List Relationship} {a b : Entity} {l : Link}

/-- How many usable relationships before the one at `k` are stored in a foreign key. -/
def keyRank (s : Schema) (k : Nat) : Nat := ((s.usable.take k).filter (·.kind != .manyToMany)).length

lemma Made.keyRank_eq (m : s.Made k r rs a b l) : s.keyRank k = (s.draftAfter rs).foreignKeys.length := by
  rw [keyRank, ← m.earlier, length_foreignKeys_draftAfter]

lemma Made.getElem?_foreignKeys (m : s.Made k r rs a b l) {key : ForeignKey} (h : l.foreignKey? = some key) :
    s.resolve.foreignKeys[s.keyRank k]? = some key := by
  have hprefix : (s.draftAfter rs).foreignKeys ++ [key] <+: s.resolve.foreignKeys := by
    have hkeys := m.grows.foreignKeys
    rw [h, Option.toList_some] at hkeys
    rw [← hkeys]
    exact m.links.filterMap _
  obtain ⟨later, hlater⟩ := hprefix
  simp [← hlater, m.keyRank_eq]

lemma exists_made_of_end {e : End} (h : e ∈ s.resolve.ends) :
    ∃ k r rs a b l, s.Made k r rs a b l ∧ (e = l.sourceEnd k ∨ e = l.targetEnd k) := by
  obtain ⟨i, hi⟩ := List.mem_iff_getElem?.mp h
  obtain ⟨k, l, hl, hend⟩ := Resolution.exists_link_of_end hi
  obtain ⟨r, rs, a, b, -, m⟩ := exists_made_of_link hl
  exact ⟨k, r, rs, a, b, l, m, hend.imp And.right And.right⟩

lemma getElem?_junction {j : Junction} (h : j ∈ s.resolve.junctions) :
    s.resolve.junctions[j.index]? = some j := by
  obtain ⟨i, hi⟩ := List.mem_iff_getElem?.mp h
  have hlt := (List.getElem?_eq_some_iff.mp hi).1
  have hindex : (s.resolve.junctions.map (·.index))[i]? = (List.range s.resolve.junctions.length)[i]? :=
    congrArg (·[i]?) (junction_indices_draftAfter s.relationships)
  rw [List.getElem?_map, hi, List.getElem?_range hlt, Option.map_some, Option.some.injEq] at hindex
  rw [hindex, hi]

lemma Made.exists_junction (m : s.Made k r rs a b l) (h : r.kind = .manyToMany) :
    ∃ j, l.storage = .junction j (j.source.entity.index == a.index) ∧
      s.resolve.junctions.find? (·.key == r.junctionKey a b) = some j := by
  obtain ⟨j, hj, hjunctions⟩ := m.grows.junction h
  refine ⟨j, hj, m.junctions.find?_eq_some ?_⟩
  rcases hjunctions with ⟨hf, he⟩ | ⟨hf, rfl, he⟩
  · rw [he, hf]
  · simp [he, hf, Draft.freshJunction, Draft.newJunction]

/-- `a` and `b` are the ends at positions `2 * k` and `2 * k + 1`, made of the relationship `r`. -/
structure Pairs (s : Schema) (k : Nat) (r : Relationship) (a b : End) : Prop where
  first : s.resolve.ends[2 * k]? = some a
  second : s.resolve.ends[2 * k + 1]? = some b
  inverse : a.inverse = 2 * k + 1 ∧ b.inverse = 2 * k
  opposes : a.Opposes b
  kind : a.kind = r.kind
  source : s.First r.source a.entity
  target : s.First r.target b.entity
  key : r.kind ≠ .manyToMany → ∃ key, s.resolve.foreignKeys[s.keyRank k]? = some key ∧
    key.index = s.keyRank k ∧ s.First (if r.kind = .oneToMany then r.target else r.source) key.owner ∧
      (a.Owns key b ∨ b.Owns key a)
  junction : r.kind = .manyToMany → ∃ j forward, s.resolve.junctions[j.index]? = some j ∧
    a.role = .junction j forward ∧ b.role = .junction j (!forward) ∧
      a.cardinality = .many ∧ b.cardinality = .many

lemma ownership_sides {o : Ownership} (ha : a ∈ s.entities) (hb : b ∈ s.entities) (h : r.ownership? a b = some o) :
    (o.owner.index = a.index → o.owner = a ∧ o.referenced = b) ∧
      (o.owner.index ≠ a.index → o.owner = b ∧ o.referenced = a) := by
  rw [Relationship.owner_eq h, Relationship.referenced_eq h]
  by_cases hk : r.kind = .oneToMany
  · rw [if_pos hk, if_pos hk]
    refine ⟨?_, fun _ => ⟨rfl, rfl⟩⟩
    intro hi
    -- the target holds the key, but the position is that of the source: both are one table
    obtain rfl := eq_of_index_eq hb ha hi
    exact ⟨rfl, rfl⟩
  · simp [hk]

lemma Made.sides (m : s.Made k r rs a b l) {o : Ownership} (h : r.ownership? a b = some o) :
    (o.owner.index = a.index → o.owner = a ∧ o.referenced = b) ∧
      (o.owner.index ≠ a.index → o.owner = b ∧ o.referenced = a) :=
  ownership_sides m.source.mem m.target.mem h

lemma Made.exists_ownership (m : s.Made k r rs a b l) {key : ForeignKey} {atSource : Bool}
    (h : l.storage = .column key atSource) :
    ∃ o, r.ownership? a b = some o ∧ key = (s.draftAfter rs).foreignKey o ∧ atSource = (o.owner.index == a.index) := by
  have hkind : r.kind ≠ .manyToMany := by
    intro hr
    obtain ⟨j, hj, -⟩ := m.grows.junction hr
    exact Storage.noConfusion (h.symm.trans hj)
  obtain ⟨o, ho⟩ := Relationship.exists_ownership hkind a b
  exact ⟨o, ho, Storage.column.inj (h.symm.trans (m.grows.key o ho).1)⟩

lemma Made.owns (m : s.Made k r rs a b l) {o : Ownership} (h : r.ownership? a b = some o) :
    (l.sourceEnd k).Owns ((s.draftAfter rs).foreignKey o) (l.targetEnd k) ∨
      (l.targetEnd k).Owns ((s.draftAfter rs).foreignKey o) (l.sourceEnd k) := by
  have hs := (m.grows.key o h).1
  obtain ⟨hsource, htarget⟩ := m.sides h
  by_cases hi : o.owner.index = a.index
  · obtain ⟨ho, hr⟩ := hsource hi
    have hstorage : l.storage = .column ((s.draftAfter rs).foreignKey o) true := by simp [hs, hi]
    refine .inl ⟨?_, ?_, ?_, ho.trans m.grows.source.symm, hr.trans m.grows.target.symm⟩
    · simp [Link.sourceEnd, Link.sourceRole, hstorage]
    · simp [Link.targetEnd, Link.targetRole, hstorage]
    · simp [Link.sourceEnd, Link.sourceRole, hstorage, Link.cardinalityOf]
  · obtain ⟨ho, hr⟩ := htarget hi
    have hstorage : l.storage = .column ((s.draftAfter rs).foreignKey o) false := by simp [hs, hi]
    refine .inr ⟨?_, ?_, ?_, ho.trans m.grows.target.symm, hr.trans m.grows.source.symm⟩
    · simp [Link.targetEnd, Link.targetRole, hstorage]
    · simp [Link.sourceEnd, Link.sourceRole, hstorage]
    · simp [Link.targetEnd, Link.targetRole, hstorage, Link.cardinalityOf]

lemma Made.pairs (m : s.Made k r rs a b l) : s.Pairs k r (l.sourceEnd k) (l.targetEnd k) where
  first := (Resolution.getElem?_ends_even _ _).trans (congrArg _ m.link)
  second := (Resolution.getElem?_ends_odd _ _).trans (congrArg _ m.link)
  inverse := ⟨rfl, rfl⟩
  opposes := l.sourceEnd_opposes k
  kind := m.grows.kind
  source := by simpa [Link.sourceEnd, m.grows.source] using m.source
  target := by simpa [Link.targetEnd, m.grows.target] using m.target
  key := by
    intro hk
    obtain ⟨o, ho⟩ := Relationship.exists_ownership hk a b
    refine ⟨_, m.getElem?_foreignKeys ?_, m.keyRank_eq.symm, m.owner_first ho, m.owns ho⟩
    simp [Link.foreignKey?, (m.grows.key o ho).1]
  junction := by
    intro hk
    obtain ⟨j, hj, hf⟩ := m.exists_junction hk
    have hindex := getElem?_junction (List.mem_of_find?_eq_some hf)
    refine ⟨j, j.source.entity.index == a.index, hindex, ?_, ?_, ?_, ?_⟩
    · simp [Link.sourceEnd, Link.sourceRole, hj]
    · simp [Link.targetEnd, Link.targetRole, hj]
    · simp [Link.sourceEnd, Link.sourceRole, hj, Link.cardinalityOf]
    · simp [Link.targetEnd, Link.targetRole, hj, Link.cardinalityOf]

theorem ends_pair_relationships (s : Schema) :
    s.resolve.ends.length = 2 * s.usable.length ∧
      (∀ (i : Nat) (e : End), s.resolve.ends[i]? = some e → e.index = i ∧ e.inverse ≠ i ∧
        ∃ e', s.resolve.ends[e.inverse]? = some e' ∧ e'.inverse = i ∧ e.Opposes e') ∧
      ∀ (k : Nat) (r : Relationship), s.usable[k]? = some r → ∃ a b, s.Pairs k r a b := by
  refine ⟨?_, ?_, ?_⟩
  · rw [Resolution.length_ends]
    exact congrArg (2 * ·) (length_links_draftAfter s.relationships)
  · intro i e h
    exact Resolution.exists_inverse h
  · intro k r h
    obtain ⟨rs, a, b, l, m⟩ := exists_made h
    exact ⟨_, _, m.pairs⟩

end Schema

end SchemaCode
