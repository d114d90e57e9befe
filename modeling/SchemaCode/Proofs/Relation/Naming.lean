import SchemaCode.Proofs.FreshNames
import SchemaCode.Proofs.Relation.Ends

namespace SchemaCode

namespace Names

structure Claimed (n n' : Names) (i j : Nat) (f g : String) : Prop where
  first : n.contains (.members i) f = false
  second : n.contains (.members j) g = false
  ne : i = j → f ≠ g
  contains_iff : ∀ scope x, n'.contains scope x = true ↔
    .members i = scope ∧ f = x ∨ .members j = scope ∧ g = x ∨ n.contains scope x = true

lemma Claimed.symm {n n' : Names} {i j : Nat} {f g : String} (h : n.Claimed n' i j f g) :
    n.Claimed n' j i g f where
  first := h.second
  second := h.first
  ne he := (h.ne he.symm).symm
  contains_iff scope x := by rw [h.contains_iff, or_left_comm]

lemma claimed_fresh (n : Names) (i j : Nat) (x y : String) :
    let f := n.fresh (.members i) x
    let g := (n.insert (.members i) f).fresh (.members j) y
    n.Claimed ((n.insert (.members i) f).insert (.members j) g) i j f g := by
  intro f g
  have hg : ¬ (n.insert (.members i) f).contains (.members j) g = true :=
    Bool.eq_false_iff.mp (not_contains_fresh _ _ y)
  rw [contains_insert_iff, not_or] at hg
  refine ⟨not_contains_fresh n _ x, Bool.eq_false_iff.mpr hg.2, ?_, ?_⟩
  · intro hi hf
    exact hg.1 ⟨congrArg Scope.members hi, hf⟩
  · intro scope z
    rw [contains_insert_iff, contains_insert_iff, or_left_comm]

end Names

namespace Link

variable {l : Link} {t : Nat} {x : String}

def fieldsOn (l : Link) (t : Nat) : List String :=
  (if l.source.index = t then [l.sourceField] else []) ++ if l.target.index = t then [l.targetField] else []

def Adds (l : Link) (t : Nat) (x : String) : Prop :=
  ∃ key, l.foreignKey? = some key ∧ key.synthesized = true ∧ key.owner.index = t ∧ key.column = x

lemma mem_fieldsOn : x ∈ l.fieldsOn t ↔
    l.source.index = t ∧ l.sourceField = x ∨ l.target.index = t ∧ l.targetField = x := by
  simp only [fieldsOn, List.mem_append, List.mem_ite_nil_right, List.mem_singleton, eq_comm]

structure Clears (l l' : Link) : Prop where
  name : l.name ≠ l'.name
  field : ∀ t x, x ∈ l'.fieldsOn t → x ∉ l.fieldsOn t ∧ ¬ l.Adds t x

end Link

lemma Relationship.sides_of_ownership {r : Relationship} {a b : Entity} {o : Ownership}
    (h : r.ownership? a b = some o) :
    (o.owner.index = a.index → o.referenced.index = b.index) ∧
      (o.owner.index ≠ a.index → o.owner.index = b.index ∧ o.referenced.index = a.index) := by
  rw [owner_eq h, referenced_eq h]
  by_cases hk : r.kind = .oneToMany
  · simp only [if_pos hk]
    exact ⟨Eq.symm, fun _ => ⟨trivial, trivial⟩⟩
  · simp [if_neg hk]

namespace Draft

/-- The link `l` is added to `d`. Its fields are claimed when the names in use are `mid`. -/
structure Named (d d' : Draft) (mid : Names) (l : Link) : Prop where
  fresh : d.names.contains .relations l.name = false
  relations : ∀ x, mid.contains .relations x = true ↔ l.name = x ∨ d.names.contains .relations x = true
  members : ∀ t x, mid.contains (.members t) x = true ↔ l.Adds t x ∨ d.names.contains (.members t) x = true
  fields : mid.Claimed d'.names l.source.index l.target.index l.sourceField l.targetField

section Named

variable {d d' : Draft} {mid : Names} {l : Link} {t : Nat} {x : String}

lemma Named.contains_relations_iff (h : d.Named d' mid l) :
    d'.names.contains .relations x = true ↔ l.name = x ∨ d.names.contains .relations x = true := by
  simp [h.fields.contains_iff, h.relations]

lemma Named.contains_members_iff (h : d.Named d' mid l) : d'.names.contains (.members t) x = true ↔
    (x ∈ l.fieldsOn t ∨ l.Adds t x) ∨ d.names.contains (.members t) x = true := by
  simp only [h.fields.contains_iff, h.members, Link.mem_fieldsOn, Scope.members.injEq, or_assoc]

lemma Named.field_fresh (h : d.Named d' mid l) (hx : x ∈ l.fieldsOn t) :
    ¬ l.Adds t x ∧ d.names.contains (.members t) x = false := by
  have hmid : mid.contains (.members t) x = false := by
    rcases Link.mem_fieldsOn.mp hx with ⟨rfl, rfl⟩ | ⟨rfl, rfl⟩
    · exact h.fields.first
    · exact h.fields.second
  rwa [Bool.eq_false_iff, ne_eq, h.members, not_or, ← ne_eq, ← Bool.eq_false_iff] at hmid

lemma Named.nodup_fieldsOn (h : d.Named d' mid l) (t : Nat) : (l.fieldsOn t).Nodup := by
  by_cases hs : l.source.index = t
  · by_cases ht : l.target.index = t
    · have hne := h.fields.ne (hs.trans ht.symm)
      simpa [Link.fieldsOn, hs, ht] using hne
    · simp [Link.fieldsOn, hs, ht]
  · by_cases ht : l.target.index = t
    · simp [Link.fieldsOn, hs, ht]
    · simp [Link.fieldsOn, hs, ht]

end Named

variable {d : Draft} {r : Relationship} {a b : Entity} {o : Ownership}

lemma contains_reserve_iff {key : ForeignKey} {scope : Scope} {x : String} :
    (d.reserve key).names.contains scope x = true ↔
      key.synthesized = true ∧ .members key.owner.index = scope ∧ key.column = x ∨
        d.names.contains scope x = true := by
  unfold reserve
  by_cases hs : key.synthesized = true
  · rw [if_pos hs]
    simp [Names.contains_insert_iff, hs]
  · simp [hs]

lemma names_junction (d : Draft) (r : Relationship) (a b : Entity) :
    (d.junction r a b).2.links = d.links ∧ ∀ scope x, scope ≠ .storage →
      (d.junction r a b).2.names.contains scope x = d.names.contains scope x := by
  cases hf : d.junctions.find? (·.key == r.junctionKey a b) with
  | some j =>
    rw [junction_of_find? hf]
    exact ⟨rfl, fun _ _ _ => rfl⟩
  | none =>
    obtain ⟨notices, hj⟩ := junction_of_find?_eq_none hf
    rw [hj]
    refine ⟨rfl, ?_⟩
    intro scope x hscope
    rw [Bool.eq_iff_iff]
    simp [Names.contains_insert_iff, hscope.symm]

lemma contains_claim_iff {scope scope' : Scope} {base x : String} :
    (d.claim scope base).2.names.contains scope' x = true ↔
      scope = scope' ∧ (d.claim scope base).1 = x ∨ d.names.contains scope' x = true :=
  Names.contains_insert_iff

lemma fields_linkByKey (d : Draft) (r : Relationship) (a b : Entity) (name : String) (o : Ownership) :
    ∃ f g, (d.linkByKey r a b name o).links = d.links ++
        [{ kind := r.kind, name, source := a, target := b
           sourceField := if o.owner.index == a.index then f else g
           targetField := if o.owner.index == a.index then g else f
           storage := .column (d.foreignKey o) (o.owner.index == a.index) }] ∧
      (d.reserve (d.foreignKey o)).names.Claimed (d.linkByKey r a b name o).names
        o.owner.index o.referenced.index f g := by
  refine ⟨_, _, congrArg (· ++ [_]) ?_, Names.claimed_fresh _ _ _ _ _⟩
  simp

lemma fields_linkByJunction (d : Draft) (r : Relationship) (a b : Entity) (name : String) :
    ∃ f g j forward, (d.linkByJunction r a b name).links = d.links ++
        [{ kind := r.kind, name, source := a, target := b, sourceField := f, targetField := g
           storage := .junction j forward }] ∧
      (d.junction r a b).2.names.Claimed (d.linkByJunction r a b name).names a.index b.index f g := by
  refine ⟨_, _, _, _, congrArg (· ++ [_]) ?_, Names.claimed_fresh _ _ _ _ _⟩
  exact (names_junction d r a b).1

lemma named_linkByKey (d : Draft) (h : r.ownership? a b = some o) :
    let c := d.claim .relations (r.relationName a b)
    ∃ l mid, (c.2.linkByKey r a b c.1 o).links = d.links ++ [l] ∧
      d.Named (c.2.linkByKey r a b c.1 o) mid l := by
  intro c
  obtain ⟨f, g, hlinks, hclaimed⟩ := fields_linkByKey c.2 r a b c.1 o
  refine ⟨_, (c.2.reserve (c.2.foreignKey o)).names, hlinks, Names.not_contains_fresh _ _ _, ?_, ?_, ?_⟩
  · intro x
    simp [c, contains_reserve_iff, contains_claim_iff]
  · intro t x
    simp [c, contains_reserve_iff, contains_claim_iff, Link.Adds, Link.foreignKey?]
  · obtain ⟨hsource, htarget⟩ := Relationship.sides_of_ownership h
    by_cases hi : o.owner.index = a.index
    · rw [hi, hsource hi] at hclaimed
      simpa [hi] using hclaimed
    · rw [(htarget hi).1, (htarget hi).2] at hclaimed
      simpa [hi] using hclaimed.symm

lemma named_linkByJunction (d : Draft) (r : Relationship) (a b : Entity) :
    let c := d.claim .relations (r.relationName a b)
    ∃ l mid, (c.2.linkByJunction r a b c.1).links = d.links ++ [l] ∧
      d.Named (c.2.linkByJunction r a b c.1) mid l := by
  intro c
  obtain ⟨f, g, j, forward, hlinks, hclaimed⟩ := fields_linkByJunction c.2 r a b c.1
  have hnames := (names_junction c.2 r a b).2
  refine ⟨_, _, hlinks, Names.not_contains_fresh _ _ _, ?_, ?_, hclaimed⟩
  · intro x
    rw [hnames _ _ Scope.noConfusion, contains_claim_iff]
    simp [c]
  · intro t x
    rw [hnames _ _ Scope.noConfusion, contains_claim_iff]
    simp [Link.Adds, Link.foreignKey?]

lemma named_link {l : Link} (h : (d.link r a b).links = d.links ++ [l]) : ∃ mid, d.Named (d.link r a b) mid l := by
  have hnamed : ∃ l mid, (d.link r a b).links = d.links ++ [l] ∧ d.Named (d.link r a b) mid l := by
    unfold link
    cases ho : r.ownership? a b with
    | none => exact named_linkByJunction d r a b
    | some o => exact named_linkByKey d ho
  obtain ⟨l', mid, hlinks, hn⟩ := hnamed
  obtain rfl : l = l' := by simpa [h] using hlinks
  exact ⟨mid, hn⟩

lemma add_eq_link (ha : d.find? r.source = some a) (hb : d.find? r.target = some b) : d.add r = d.link r a b := by
  simp only [add, ha, hb]

lemma contains_storage_linkByKey {name : String} :
    (d.linkByKey r a b name o).names.contains .storage x = true ↔ d.names.contains .storage x = true := by
  rw [linkByKey_eq]
  simp [addLink, contains_claim_iff, contains_reserve_iff]

lemma contains_storage_linkByJunction (d : Draft) (r : Relationship) (a b : Entity) (name : String) :
    ∃ js, (d.linkByJunction r a b name).junctions = d.junctions ++ js ∧ ∀ x,
      ((d.linkByJunction r a b name).names.contains .storage x = true ↔
        (∃ j ∈ js, j.name = x) ∨ d.names.contains .storage x = true) := by
  rw [linkByJunction_eq]
  cases hf : d.junctions.find? (·.key == r.junctionKey a b) with
  | some j =>
    rw [junction_of_find? hf]
    refine ⟨[], (List.append_nil _).symm, ?_⟩
    simp [addLink, contains_claim_iff]
  | none =>
    obtain ⟨notices, hj⟩ := junction_of_find?_eq_none hf
    rw [hj]
    refine ⟨[_], rfl, ?_⟩
    simp [addLink, contains_claim_iff, Names.contains_insert_iff, newJunction]

lemma exists_junctions_link (d : Draft) (r : Relationship) (a b : Entity) :
    ∃ js, (d.link r a b).junctions = d.junctions ++ js ∧ ∀ x,
      ((d.link r a b).names.contains .storage x = true ↔
        (∃ j ∈ js, j.name = x) ∨ d.names.contains .storage x = true) := by
  have hclaim : ∀ x, (d.claim .relations (r.relationName a b)).2.names.contains .storage x = true ↔
      d.names.contains .storage x = true := by
    intro x
    simp [contains_claim_iff]
  unfold link
  cases ho : r.ownership? a b with
  | some o =>
    refine ⟨[], ?_, ?_⟩
    · rw [List.append_nil]
      simp [linkByKey_eq, addLink]
    · intro x
      simp [contains_storage_linkByKey, hclaim]
  | none =>
    obtain ⟨js, hjs, hnames⟩ := contains_storage_linkByJunction (d.claim .relations (r.relationName a b)).2 r a b
      (d.claim .relations (r.relationName a b)).1
    refine ⟨js, hjs, ?_⟩
    intro x
    rw [hnames, hclaim]

lemma contains_initialNames_iff {entities : List Entity} {scope : Scope} {x : String} :
    (initialNames entities).contains scope x = true ↔
      (∃ e ∈ entities, .members e.index = scope ∧ ∃ c ∈ e.columns, c.name = x) ∨
        .storage = scope ∧ ∃ e ∈ entities, e.lowerName = x := by
  have hcolumns : ∀ names : Names,
      (entities.foldl (fun names e => names.insertAll (.members e.index) (e.columns.map (·.name))) names).contains
          scope x = true ↔
        (∃ e ∈ entities, .members e.index = scope ∧ ∃ c ∈ e.columns, c.name = x) ∨
          names.contains scope x = true := by
    induction entities with
    | nil => simp
    | cons e entities ih =>
      intro names
      rw [List.foldl_cons, ih, Names.contains_insertAll_iff]
      simp only [List.mem_map, List.exists_mem_cons_iff]
      rw [or_left_comm, or_assoc]
  rw [initialNames, hcolumns, Names.contains_insertAll_iff]
  simp [Names.contains]

end Draft

namespace Schema

variable {s : Schema} {rs : List Relationship} {r : Relationship} {a b : Entity} {l l' : Link} {i j k : Nat}

lemma draftAfter_concat_eq_link (ha : s.First r.source a) (hb : s.First r.target b) :
    s.draftAfter (rs ++ [r]) = (s.draftAfter rs).link r a b := by
  rw [draftAfter_concat]
  exact Draft.add_eq_link ((find?_draftAfter_iff rs).mpr ha) ((find?_draftAfter_iff rs).mpr hb)

lemma named_of_grows (ha : s.First r.source a) (hb : s.First r.target b)
    (hg : (s.draftAfter rs).Grows (s.draftAfter (rs ++ [r])) r a b l) :
    ∃ mid, (s.draftAfter rs).Named (s.draftAfter (rs ++ [r])) mid l := by
  have hlinks := hg.links
  rw [draftAfter_concat_eq_link ha hb] at hlinks ⊢
  exact Draft.named_link hlinks

lemma contains_relations_draftAfter (rs : List Relationship) {x : String} :
    (s.draftAfter rs).names.contains .relations x = true ↔ ∃ l ∈ (s.draftAfter rs).links, l.name = x := by
  induction rs using List.reverseRecOn with
  | nil => simp [draftAfter, Draft.start, Draft.contains_initialNames_iff]
  | append_singleton rs r ih =>
    rcases draftAfter_cases rs r with ⟨-, a, b, l, ha, hb, hg⟩ | ⟨-, n, hd⟩
    · obtain ⟨mid, hn⟩ := named_of_grows ha hb hg
      rw [hn.contains_relations_iff, ih, hg.links]
      simp [or_and_right, exists_or, or_comm]
    · rw [hd]
      exact ih

lemma contains_members_draftAfter (rs : List Relationship) {t : Nat} {x : String} :
    (s.draftAfter rs).names.contains (.members t) x = true ↔
      s.Declares t x ∨ ∃ l ∈ (s.draftAfter rs).links, x ∈ l.fieldsOn t ∨ l.Adds t x := by
  induction rs using List.reverseRecOn with
  | nil => simp [draftAfter, Draft.start, Draft.contains_initialNames_iff, declares_iff_exists]
  | append_singleton rs r ih =>
    rcases draftAfter_cases rs r with ⟨-, a, b, l, ha, hb, hg⟩ | ⟨-, n, hd⟩
    · obtain ⟨mid, hn⟩ := named_of_grows ha hb hg
      rw [hn.contains_members_iff, ih, hg.links, or_left_comm]
      simp [or_and_right, exists_or, or_comm]
    · rw [hd]
      exact ih

lemma contains_storage_draftAfter (rs : List Relationship) {x : String} :
    (s.draftAfter rs).names.contains .storage x = true ↔
      (∃ e ∈ s.entities, e.lowerName = x) ∨ ∃ j ∈ (s.draftAfter rs).junctions, j.name = x := by
  induction rs using List.reverseRecOn with
  | nil => simp [draftAfter, Draft.start, Draft.contains_initialNames_iff]
  | append_singleton rs r ih =>
    rcases draftAfter_cases rs r with ⟨-, a, b, l, ha, hb, -⟩ | ⟨-, n, hd⟩
    · obtain ⟨js, hjs, hnames⟩ := Draft.exists_junctions_link (s.draftAfter rs) r a b
      rw [draftAfter_concat_eq_link ha hb, hnames, ih, hjs, or_left_comm]
      simp [or_and_right, exists_or, or_comm]
    · rw [hd]
      exact ih

lemma Made.not_contains (m : s.Made k r rs a b l) :
    (s.draftAfter rs).names.contains .relations l.name = false ∧ ∀ t, (l.fieldsOn t).Nodup ∧
      ∀ x ∈ l.fieldsOn t, ¬ l.Adds t x ∧ (s.draftAfter rs).names.contains (.members t) x = false := by
  obtain ⟨mid, hn⟩ := named_of_grows m.source m.target m.grows
  exact ⟨hn.fresh, fun t => ⟨hn.nodup_fieldsOn t, fun x hx => hn.field_fresh hx⟩⟩

lemma own_fields (hl : s.resolve.links[k]? = some l) (t : Nat) :
    (l.fieldsOn t).Nodup ∧ ∀ x ∈ l.fieldsOn t, ¬ l.Adds t x ∧ ¬ s.Declares t x := by
  obtain ⟨r, rs, a, b, -, m⟩ := exists_made_of_link hl
  obtain ⟨hnodup, hfields⟩ := m.not_contains.2 t
  refine ⟨hnodup, ?_⟩
  intro x hx
  obtain ⟨hadds, hfresh⟩ := hfields x hx
  rw [Bool.eq_false_iff, ne_eq, contains_members_draftAfter, not_or] at hfresh
  exact ⟨hadds, hfresh.1⟩

lemma clears_of_lt (hl : s.resolve.links[i]? = some l) (hl' : s.resolve.links[j]? = some l') (h : i < j) :
    l.Clears l' := by
  obtain ⟨r, rs, a, b, -, m⟩ := exists_made_of_link hl'
  have hmem : l ∈ (s.draftAfter rs).links := by
    rw [m.before]
    exact List.mem_of_getElem? ((List.getElem?_take_of_lt h).trans hl)
  obtain ⟨hname, hfields⟩ := m.not_contains
  constructor
  · intro he
    rw [Bool.eq_false_iff, ne_eq, contains_relations_draftAfter] at hname
    exact hname ⟨l, hmem, he⟩
  · intro t x hx
    have hfresh := ((hfields t).2 x hx).2
    rw [Bool.eq_false_iff, ne_eq, contains_members_draftAfter, not_or] at hfresh
    exact not_or.mp fun hl => hfresh.2 ⟨l, hmem, hl⟩

lemma links_pairwise_clears (s : Schema) : s.resolve.links.Pairwise Link.Clears := by
  rw [List.pairwise_iff_getElem]
  intro i j hi hj hij
  exact clears_of_lt (List.getElem?_eq_getElem hi) (List.getElem?_eq_getElem hj) hij

end Schema

end SchemaCode
