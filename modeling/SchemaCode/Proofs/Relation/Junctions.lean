import Mathlib.Data.Finset.Card
import SchemaCode.Proofs.Relation.Naming
import SchemaCode.Proofs.Relation.SharedJunctions

namespace SchemaCode

namespace Link

def junction? (l : Link) : Option Junction :=
  match l.storage with
  | .column .. => none
  | .junction j _ => some j

end Link

lemma Draft.columns_newJunction (i : Nat) (key name : String) (a b : Entity) (sourceKey targetKey : String) :
    (newJunction i key name a b sourceKey targetKey).source.column ≠
      (newJunction i key name a b sourceKey targetKey).target.column := by
  intro h
  simp only [newJunction] at h
  split at h
  · rename_i he
    rw [beq_iff_eq] at he
    have hlength := congrArg String.length (he.trans h)
    simp at hlength
  · rename_i hne
    exact hne (beq_iff_eq.mpr h.symm)

namespace Schema

variable {s : Schema} {rs : List Relationship} {r : Relationship} {a b : Entity} {j : Junction} {i k : Nat}

structure Founds (s : Schema) (i : Nat) (rs : List Relationship) (r : Relationship) (a b : Entity) (j : Junction) :
    Prop where
  kind : r.kind = .manyToMany
  source : s.First r.source a
  target : s.First r.target b
  precedes : rs ++ [r] <+: s.relationships
  made : j = (s.draftAfter rs).freshJunction r a b
  before : (s.draftAfter rs).junctions = s.resolve.junctions.take i
  new : (s.draftAfter rs).junctions.find? (·.key == r.junctionKey a b) = none

lemma junctions_concat_cases (rs : List Relationship) (r : Relationship) :
    (s.draftAfter (rs ++ [r])).junctions = (s.draftAfter rs).junctions ∨
      ∃ a b, r.kind = .manyToMany ∧ s.First r.source a ∧ s.First r.target b ∧
        (s.draftAfter rs).junctions.find? (·.key == r.junctionKey a b) = none ∧
        (s.draftAfter (rs ++ [r])).junctions =
          (s.draftAfter rs).junctions ++ [(s.draftAfter rs).freshJunction r a b] := by
  rcases draftAfter_cases rs r with ⟨-, a, b, l, ha, hb, hg⟩ | ⟨-, n, hd⟩
  · rcases hg.junctions_cases with hsame | ⟨hk, hnew, hmore⟩
    · exact .inl hsame
    · exact .inr ⟨a, b, hk, ha, hb, hnew, hmore⟩
  · rw [hd]
    exact .inl rfl

lemma founds_of_concat (hp : rs ++ [r] <+: s.relationships) (hk : r.kind = .manyToMany) (ha : s.First r.source a)
    (hb : s.First r.target b) (hnew : (s.draftAfter rs).junctions.find? (·.key == r.junctionKey a b) = none)
    (hmore : (s.draftAfter (rs ++ [r])).junctions =
      (s.draftAfter rs).junctions ++ [(s.draftAfter rs).freshJunction r a b]) :
    s.Founds (s.draftAfter rs).junctions.length rs r a b ((s.draftAfter rs).freshJunction r a b) := by
  refine ⟨hk, ha, hb, hp, rfl, ?_, hnew⟩
  -- the relationships after `r` leave the junctions before its own in place
  obtain ⟨more, hs⟩ := hp
  obtain ⟨later, hlater⟩ := (prefix_draftAfter (s := s) (rs ++ [r]) more).2
  show _ = (s.draftAfter s.relationships).junctions.take _
  rw [← hs, ← hlater, hmore, List.append_assoc]
  exact List.take_left.symm

lemma exists_founds_of_prefix (hp : rs <+: s.relationships) (h : (s.draftAfter rs).junctions[i]? = some j) :
    ∃ rs r a b, s.Founds i rs r a b j := by
  induction rs using List.reverseRecOn with
  | nil => exact absurd h.symm (Option.some_ne_none j)
  | append_singleton rs r ih =>
    have hearlier := (List.prefix_append rs [r]).trans hp
    rcases junctions_concat_cases rs r with hsame | ⟨a, b, hk, ha, hb, hnew, hmore⟩
    · exact ih hearlier (hsame ▸ h)
    · rw [hmore] at h
      have hlt := (List.getElem?_eq_some_iff.mp h).1
      rw [List.length_append, List.length_singleton] at hlt
      rcases Nat.lt_succ_iff_lt_or_eq.mp hlt with hi | rfl
      · rw [List.getElem?_append_left hi] at h
        exact ih hearlier h
      · rw [List.getElem?_concat_length, Option.some.injEq] at h
        exact ⟨rs, r, a, b, h ▸ founds_of_concat hp hk ha hb hnew hmore⟩

lemma exists_founds (h : s.resolve.junctions[i]? = some j) : ∃ rs r a b, s.Founds i rs r a b j :=
  exists_founds_of_prefix List.prefix_rfl h

def asksFor (s : Schema) (key : String) (r : Relationship) : Bool := (s.joining? r).any (·.key == key)

def StorageName (s : Schema) (i : Nat) (x : String) : Prop :=
  (∃ e ∈ s.entities, e.lowerName = x) ∨ ∃ j ∈ s.resolve.junctions.take i, j.name = x

lemma Founds.key_eq (h : s.Founds i rs r a b j) : j.key = r.junctionKey a b := by
  rw [h.made]
  rfl

lemma Founds.freshens (h : s.Founds i rs r a b j) : Names.Freshens (s.StorageName i) j.key j.name := by
  rw [h.made]
  apply Names.freshens_fresh
  intro x
  rw [Draft.contains_claim_iff, contains_storage_draftAfter, h.before]
  simp [StorageName]

lemma Founds.find?_asksFor (h : s.Founds i rs r a b j) : s.relationships.find? (s.asksFor j.key) = some r := by
  obtain ⟨more, hs⟩ := h.precedes
  have hearlier : rs.find? (s.asksFor j.key) = none := by
    have hnone := find?_junctions_draftAfter s rs j.key
    rw [h.key_eq, h.new, Option.map_none, eq_comm, List.find?_eq_none] at hnone
    rw [h.key_eq, List.find?_eq_none]
    intro r' hr' hasks
    obtain ⟨x, hx, hkey⟩ := (Option.any_eq_true _ _).mp hasks
    exact hnone x (List.mem_filterMap.mpr ⟨r', hr', hx⟩) hkey
  have hr : s.asksFor j.key r = true := by
    rw [asksFor, joining?_eq_some h.source h.target h.kind, h.key_eq]
    simp
  rw [← hs, List.append_assoc, List.find?_append, hearlier]
  simp [hr]

lemma junctions_pairwise_ne (s : Schema) :
    s.resolve.junctions.Pairwise fun j j' => j.key ≠ j'.key ∧ j.name ≠ j'.name := by
  rw [List.pairwise_iff_getElem]
  intro i i' hi hi' hlt
  obtain ⟨rs, r, a, b, h⟩ := exists_founds (List.getElem?_eq_getElem hi')
  have hmem : s.resolve.junctions[i] ∈ s.resolve.junctions.take i' :=
    List.mem_of_getElem? ((List.getElem?_take_of_lt hlt).trans (List.getElem?_eq_getElem hi))
  constructor
  · intro he
    have hnew := List.find?_eq_none.mp h.new _ (h.before ▸ hmem)
    rw [← h.key_eq, beq_iff_eq] at hnew
    exact hnew he
  · intro he
    exact h.freshens.not_taken (.inr ⟨_, hmem, he⟩)

lemma nodup_keys_junctions (s : Schema) : (s.resolve.junctions.map (·.key)).Nodup :=
  List.pairwise_map.mpr ((junctions_pairwise_ne s).imp And.left)

lemma mem_keys_junctions_iff {key : String} :
    key ∈ s.resolve.junctions.map (·.key) ↔ key ∈ s.joinings.map (·.key) := by
  have hfound := congrArg Option.isSome (find?_junctions s key)
  rw [Option.isSome_map, Bool.eq_iff_iff, List.find?_isSome, List.find?_isSome] at hfound
  simpa using hfound

lemma length_junctions (s : Schema) : s.resolve.junctions.length = (s.joinings.map (·.key)).toFinset.card := by
  have hkeys : (s.joinings.map (·.key)).toFinset = (s.resolve.junctions.map (·.key)).toFinset := by
    ext key
    rw [List.mem_toFinset, List.mem_toFinset, mem_keys_junctions_iff]
  rw [hkeys, List.toFinset_card_of_nodup (nodup_keys_junctions s), List.length_map]

def junctionOf? (s : Schema) (k : Nat) : Option Junction := s.resolve.links[k]?.bind (·.junction?)

lemma exists_junctionOf? (h : s.usable[k]? = some r) (hk : r.kind = .manyToMany) (ha : s.First r.source a)
    (hb : s.First r.target b) :
    ∃ j, s.junctionOf? k = some j ∧ s.resolve.junctions.find? (·.key == r.junctionKey a b) = some j := by
  obtain ⟨rs, a', b', l, m⟩ := exists_made h
  obtain rfl := m.source.eq ha
  obtain rfl := m.target.eq hb
  obtain ⟨j, hj, hf⟩ := m.exists_junction hk
  refine ⟨j, ?_, hf⟩
  have hlink : s.resolve.links[k]? = some l := m.link
  rw [junctionOf?, hlink, Option.bind_some, Link.junction?, hj]

end Schema

structure JunctionSide.RefersTo (side : JunctionSide) (e : Entity) (key : String) : Prop where
  entity : side.entity = e
  referencedColumn : side.referencedColumn = if key = "" then "id" else key
  type : side.type = e.typeOf side.referencedColumn

namespace Schema

variable {s : Schema} {rs : List Relationship} {r : Relationship} {a b : Entity} {j : Junction} {i k : Nat}

lemma Founds.refersTo (h : s.Founds i rs r a b j) :
    j.source.RefersTo a r.sourceKey ∧ j.target.RefersTo b r.targetKey := by
  have hcolumn : ∀ key, keyColumn key = if key = "" then "id" else key := by
    intro key
    simp [keyColumn]
  rw [h.made]
  exact ⟨⟨rfl, hcolumn _, rfl⟩, ⟨rfl, hcolumn _, rfl⟩⟩

/-- The junction at position `i` is called after its key and stores what the first relationship to ask for this key
says. -/
structure Allocated (s : Schema) (i : Nat) (j : Junction) : Prop where
  index : j.index = i
  name : Names.Freshens (s.StorageName i) j.key j.name
  columns : j.source.column ≠ j.target.column
  first : ∃ r a b, s.relationships.find? (s.asksFor j.key) = some r ∧ s.First r.source a ∧ s.First r.target b ∧
    j.source.RefersTo a r.sourceKey ∧ j.target.RefersTo b r.targetKey

lemma allocated_of_getElem? (h : s.resolve.junctions[i]? = some j) : s.Allocated i j := by
  obtain ⟨rs, r, a, b, hf⟩ := exists_founds h
  refine ⟨?_, hf.freshens, ?_, r, a, b, hf.find?_asksFor, hf.source, hf.target, hf.refersTo⟩
  · have hlt := (List.getElem?_eq_some_iff.mp h).1
    rw [hf.made]
    show (s.draftAfter rs).junctions.length = i
    rw [hf.before, List.length_take]
    exact Nat.min_eq_left (Nat.le_of_lt hlt)
  · rw [hf.made]
    exact Draft.columns_newJunction _ _ _ _ _ _ _

lemma name_eq_key (hj : j ∈ s.resolve.junctions) (htables : ∀ e ∈ s.entities, e.lowerName ≠ j.key)
    (hkeys : ∀ key ∈ s.joinings.map (·.key), key ≠ j.key → ¬ key.toList <+: j.key.toList) : j.name = j.key := by
  rcases (allocated_of_getElem? (getElem?_junction hj)).name with ⟨-, hname⟩ | ⟨⟨e, he, hname⟩ | ⟨j', hj', hname⟩, -⟩
  · exact hname
  · exact absurd hname (htables e he)
  · have hmem := List.mem_of_mem_take hj'
    by_cases hkey : j'.key = j.key
    · exact List.inj_on_of_nodup_map (nodup_keys_junctions s) hmem hj hkey ▸ hname
    · have hprefix := (allocated_of_getElem? (getElem?_junction hmem)).name.isPrefix
      rw [hname] at hprefix
      exact absurd hprefix (hkeys _ (mem_keys_junctions_iff.mp (List.mem_map_of_mem hmem)) hkey)

end Schema

end SchemaCode
