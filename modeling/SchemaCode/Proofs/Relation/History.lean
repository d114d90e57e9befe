import Mathlib.Data.List.Induction
import SchemaCode.Proofs.Relation.Drafting

/-! The drafts that a schema goes through while its relationships are added one by one. -/

namespace SchemaCode

lemma split_of_getElem?_filterMap {α β : Type} {f : α → Option β} {xs : List α} {k : Nat} {y : β}
    (h : (xs.filterMap f)[k]? = some y) :
    ∃ before x after, xs = before ++ x :: after ∧ f x = some y ∧
      before.filterMap f = (xs.filterMap f).take k := by
  obtain ⟨hk, rfl⟩ := List.getElem?_eq_some_iff.mp h
  have hsplit : xs.filterMap f =
      (xs.filterMap f).take k ++ (xs.filterMap f)[k] :: (xs.filterMap f).drop (k + 1) := by
    rw [List.getElem_cons_drop, List.take_append_drop]
  obtain ⟨before, rest, rfl, hbefore, hrest⟩ := List.filterMap_eq_append_iff.mp hsplit
  obtain ⟨skipped, x, after, rfl, hskipped, hx, -⟩ := List.filterMap_eq_cons_iff.mp hrest
  refine ⟨before ++ skipped, x, after, (List.append_assoc _ _ _).symm, hx, ?_⟩
  rw [List.filterMap_append, List.filterMap_eq_nil_iff.mpr hskipped, List.append_nil, hbefore]

lemma split_of_getElem?_filter {α : Type} {p : α → Bool} {xs : List α} {k : Nat} {x : α}
    (h : (xs.filter p)[k]? = some x) :
    ∃ before after, xs = before ++ x :: after ∧ p x = true ∧ before.filter p = (xs.filter p).take k := by
  rw [← List.filterMap_eq_filter] at h ⊢
  obtain ⟨before, y, after, hxs, hy, hbefore⟩ := split_of_getElem?_filterMap h
  obtain ⟨rfl, hp⟩ := Option.guard_eq_some_iff.mp hy
  exact ⟨before, after, hxs, hp, hbefore⟩

namespace Schema

variable {s : Schema}

def draftAfter (s : Schema) (rs : List Relationship) : Draft := rs.foldl Draft.add (Draft.start s)

lemma draftAfter_concat (rs : List Relationship) (r : Relationship) :
    s.draftAfter (rs ++ [r]) = (s.draftAfter rs).add r := by
  simp [draftAfter]

lemma entities_draftAfter (rs : List Relationship) : (s.draftAfter rs).entities = s.entities := by
  induction rs using List.reverseRecOn with
  | nil => rfl
  | append_singleton rs r ih => rw [draftAfter_concat, Draft.entities_add, ih]

lemma find?_draftAfter_iff (rs : List Relationship) {id : String} {e : Entity} :
    (s.draftAfter rs).find? id = some e ↔ s.First id e := by
  rw [Draft.find?, entities_draftAfter, find?_entities_iff]

lemma draftAfter_cases (rs : List Relationship) (r : Relationship) :
    (s.uses r = true ∧ ∃ a b l, s.First r.source a ∧ s.First r.target b ∧
        (s.draftAfter rs).Grows (s.draftAfter (rs ++ [r])) r a b l) ∨
      (s.uses r = false ∧ ∃ n, s.draftAfter (rs ++ [r]) = (s.draftAfter rs).notice n) := by
  rw [draftAfter_concat]
  rcases Draft.add_cases (s.draftAfter rs) r with ⟨a, b, l, ha, hb, hg⟩ | ⟨hn, n, hd⟩
  · rw [find?_draftAfter_iff] at ha hb
    exact .inl ⟨uses_iff.mpr ⟨⟨a, ha⟩, b, hb⟩, a, b, l, ha, hb, hg⟩
  · refine .inr ⟨?_, n, hd⟩
    rw [Bool.eq_false_iff, ne_eq, uses_iff]
    rintro ⟨⟨a, ha⟩, b, hb⟩
    rw [← find?_draftAfter_iff rs] at ha hb
    simp [ha, hb] at hn

lemma draftAfter_induction {P : List Relationship → Draft → Prop} (rs : List Relationship)
    (start : P [] (Draft.start s))
    (drop : ∀ rs r n, s.uses r = false → P rs (s.draftAfter rs) → P (rs ++ [r]) ((s.draftAfter rs).notice n))
    (grow : ∀ rs r a b l d, s.uses r = true → s.First r.source a → s.First r.target b →
      (s.draftAfter rs).Grows d r a b l → P rs (s.draftAfter rs) → P (rs ++ [r]) d) :
    P rs (s.draftAfter rs) := by
  induction rs using List.reverseRecOn with
  | nil => exact start
  | append_singleton rs r ih =>
    rcases draftAfter_cases rs r with ⟨hr, a, b, l, ha, hb, hg⟩ | ⟨hr, n, hd⟩
    · exact grow rs r a b l _ hr ha hb hg ih
    · exact hd ▸ drop rs r n hr ih

lemma length_links_draftAfter (rs : List Relationship) :
    (s.draftAfter rs).links.length = (rs.filter s.uses).length := by
  induction rs using s.draftAfter_induction with
  | start => rfl
  | drop rs r n hr ih => simpa [hr, Draft.notice] using ih
  | grow rs r a b l d hr ha hb hg ih => simp [hg.links, ih, hr]

lemma length_foreignKeys_draftAfter (rs : List Relationship) :
    (s.draftAfter rs).foreignKeys.length =
      ((rs.filter s.uses).filter (·.kind != .manyToMany)).length := by
  induction rs using s.draftAfter_induction with
  | start => rfl
  | drop rs r n hr ih => simpa [hr, Draft.notice, Draft.foreignKeys] using ih
  | grow rs r a b l d hr ha hb hg ih =>
    have hk := hg.foreignKey?_isSome
    simp only [hg.foreignKeys, List.length_append, ih, List.filter_append, hr, List.filter_cons_of_pos,
      List.filter_nil]
    cases hl : l.foreignKey? <;> simp_all

lemma junction_indices_draftAfter (rs : List Relationship) :
    (s.draftAfter rs).junctions.map (·.index) = List.range (s.draftAfter rs).junctions.length := by
  induction rs using s.draftAfter_induction with
  | start => rfl
  | drop rs r n hr ih => exact ih
  | grow rs r a b l d hr ha hb hg ih =>
    rcases hg.junctions_cases with hj | ⟨-, -, hj⟩
    · rw [hj, ih]
    · simp [hj, ih, List.range_succ, Draft.freshJunction, Draft.newJunction]

lemma prefix_draftAfter (rs more : List Relationship) :
    (s.draftAfter rs).links <+: (s.draftAfter (rs ++ more)).links ∧
      (s.draftAfter rs).junctions <+: (s.draftAfter (rs ++ more)).junctions := by
  induction more using List.reverseRecOn with
  | nil => simp
  | append_singleton more r ih =>
    have hp := Draft.prefix_add (s.draftAfter (rs ++ more)) r
    rw [← List.append_assoc, draftAfter_concat]
    exact ⟨ih.1.trans hp.1, ih.2.trans hp.2⟩

/-- The usable relationship at position `k` was added after `rs` and became the link `l`. -/
structure Made (s : Schema) (k : Nat) (r : Relationship) (rs : List Relationship) (a b : Entity) (l : Link) :
    Prop where
  source : s.First r.source a
  target : s.First r.target b
  earlier : rs.filter s.uses = s.usable.take k
  before : (s.draftAfter rs).links = s.draft.links.take k
  link : s.draft.links[k]? = some l
  grows : (s.draftAfter rs).Grows (s.draftAfter (rs ++ [r])) r a b l
  links : (s.draftAfter (rs ++ [r])).links <+: s.draft.links
  junctions : (s.draftAfter (rs ++ [r])).junctions <+: s.draft.junctions

lemma exists_made {k : Nat} {r : Relationship} (h : s.usable[k]? = some r) :
    ∃ rs a b l, s.Made k r rs a b l := by
  obtain ⟨rs, more, hs, hr, hrs⟩ := split_of_getElem?_filter h
  have hk := (List.getElem?_eq_some_iff.mp h).1
  have hdraft : s.draft = s.draftAfter (rs ++ [r] ++ more) := by
    rw [List.append_assoc, List.singleton_append, ← hs]
    rfl
  have hlength : (s.draftAfter rs).links.length = k := by
    rw [length_links_draftAfter, hrs, List.length_take]
    exact Nat.min_eq_left (Nat.le_of_lt hk)
  obtain ⟨-, a, b, l, ha, hb, hg⟩ | ⟨hr', -⟩ := draftAfter_cases rs r
  · obtain ⟨hlinks, hjunctions⟩ := prefix_draftAfter (s := s) (rs ++ [r]) more
    rw [← hdraft] at hlinks hjunctions
    obtain ⟨later, hlater⟩ := hg.links ▸ hlinks
    refine ⟨rs, a, b, l, ha, hb, hrs, ?_, ?_, hg, hlinks, hjunctions⟩
    · simp [← hlater, ← hlength]
    · simp [← hlater, ← hlength]
  · simp [hr] at hr'

lemma exists_made_of_link {k : Nat} {l : Link} (h : s.draft.links[k]? = some l) :
    ∃ r rs a b, s.usable[k]? = some r ∧ s.Made k r rs a b l := by
  have hk : k < s.usable.length := by
    have hlength := length_links_draftAfter (s := s) s.relationships
    rw [usable, ← hlength]
    exact (List.getElem?_eq_some_iff.mp h).1
  obtain ⟨rs, a, b, l', hm⟩ := exists_made (List.getElem?_eq_getElem hk)
  obtain rfl := Option.some.inj (h.symm.trans hm.link)
  exact ⟨_, rs, a, b, List.getElem?_eq_getElem hk, hm⟩

variable {k : Nat} {r : Relationship} {rs : List Relationship} {a b : Entity} {l : Link}

lemma Made.owner_first (m : s.Made k r rs a b l) {o : Ownership} (h : r.ownership? a b = some o) :
    s.First (if r.kind = .oneToMany then r.target else r.source) o.owner := by
  rw [Relationship.owner_eq h]
  split
  · exact m.target
  · exact m.source

end Schema

end SchemaCode
