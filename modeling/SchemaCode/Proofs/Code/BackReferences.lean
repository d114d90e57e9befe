import SchemaCode.Proofs.Code.Columns
import SchemaCode.Proofs.Relation.DistinctNames

/-! The two ends of a relationship name each other in the formats of object mappers. -/

namespace SchemaCode

lemma filter_eq_singleton {α : Type} {xs : List α} {f : α → String} (h : (xs.map f).Nodup) {x : α} (hx : x ∈ xs) :
    xs.filter (f · == f x) = [x] := by
  obtain ⟨as, bs, rfl⟩ := List.append_of_mem hx
  rw [List.map_append, List.map_cons, List.nodup_middle, List.nodup_cons, List.mem_append] at h
  have hrest : ∀ ys : List α, f x ∉ ys.map f → ys.filter (f · == f x) = [] := by
    intro ys hys
    rw [List.filter_eq_nil_iff]
    intro y hy he
    exact hys (beq_iff_eq.mp he ▸ List.mem_map_of_mem hy)
  rw [not_or] at h
  rw [List.filter_append, List.filter_cons, hrest as h.1.1, hrest bs h.1.2]
  simp

namespace Resolution

variable {r : Resolution} {e : End}

lemma cardinality_of_mem_ends (h : e ∈ r.ends) :
    (∀ key, e.role = .owner key → e.cardinality = .one) ∧
      ∀ key, e.role = .inverse key → e.cardinality = e.kind.inverseCardinality := by
  obtain ⟨i, hi⟩ := List.mem_iff_getElem?.mp h
  obtain ⟨k, l, -, ⟨-, rfl⟩ | ⟨-, rfl⟩⟩ := exists_link_of_end hi
  · constructor <;> intro key hr <;> exact congrArg l.cardinalityOf hr
  · constructor <;> intro key hr <;> exact congrArg l.cardinalityOf hr

lemma filter_ends_relation (r : Resolution) (n : String) : r.ends.filter (·.relation == n) =
    (r.links.zipIdx.filter (·.1.name == n)).flatMap fun (l, k) => [l.sourceEnd k, l.targetEnd k] := by
  rw [ends]
  induction r.links.zipIdx with
  | nil => rfl
  | cons p rest ih =>
    rw [List.flatMap_cons, List.filter_append, ih]
    by_cases hn : p.1.name = n <;> simp [Link.sourceEnd, Link.targetEnd, hn]

end Resolution

namespace Schema

variable {s : Schema} {k : Nat} {r : Relationship} {a b : End}

lemma Pairs.exists_link (p : s.Pairs k r a b) :
    ∃ l, s.resolve.links[k]? = some l ∧ a = l.sourceEnd k ∧ b = l.targetEnd k := by
  have hfirst := p.first
  rw [Resolution.getElem?_ends_even, Option.map_eq_some_iff] at hfirst
  obtain ⟨l, hl, rfl⟩ := hfirst
  have hsecond := p.second
  rw [Resolution.getElem?_ends_odd, hl, Option.map_some, Option.some.injEq] at hsecond
  exact ⟨l, hl, rfl, hsecond.symm⟩

lemma Pairs.inverseField (p : s.Pairs k r a b) : a.inverseField = b.field ∧ b.inverseField = a.field := by
  obtain ⟨l, -, rfl, rfl⟩ := p.exists_link
  exact ⟨rfl, rfl⟩

lemma Pairs.mem_ends (p : s.Pairs k r a b) : a ∈ s.resolve.ends ∧ b ∈ s.resolve.ends :=
  ⟨List.mem_of_getElem? p.first, List.mem_of_getElem? p.second⟩

lemma Pairs.filter_ends (p : s.Pairs k r a b) : s.resolve.ends.filter (·.relation == a.relation) = [a, b] := by
  obtain ⟨l, hl, rfl, rfl⟩ := p.exists_link
  have hnames : (s.resolve.links.zipIdx.map (·.1.name)).Nodup := by
    have hdistinct := List.pairwise_map.mpr ((links_pairwise_clears s).imp Link.Clears.name)
    rw [← List.zipIdx_map_fst 0 s.resolve.links, List.map_map] at hdistinct
    exact hdistinct
  have hmem : (l, k) ∈ s.resolve.links.zipIdx := List.mem_zipIdx_iff_getElem?.mpr hl
  have honly := filter_eq_singleton hnames hmem
  rw [Resolution.filter_ends_relation, show (l.sourceEnd k).relation = l.name from rfl, honly]
  rfl

lemma filter_endsOf_field (h : a ∈ s.resolve.ends) :
    (s.resolve.endsOf a.entity.index).filter (·.field == a.field) = [a] :=
  filter_eq_singleton (nodup_fields s a.entity.index) (List.mem_filter.mpr ⟨h, beq_self_eq_true _⟩)

structure Faces (s : Schema) (a b : End) : Prop where
  mem : a ∈ s.resolve.ends
  entity : a.entity ∈ s.entities
  related : a.related = b.entity
  inverseField : a.inverseField = b.field

lemma Pairs.faces (p : s.Pairs k r a b) : s.Faces a b ∧ s.Faces b a :=
  ⟨⟨p.mem_ends.1, p.source.mem, p.opposes.related, p.inverseField.1⟩,
    ⟨p.mem_ends.2, p.target.mem, p.opposes.entity.symm, p.inverseField.2⟩⟩

end Schema

/-- Of the two ends one says how the link is stored, as this role does, and the other says nothing. -/
def OneJoined (joined : Role → String) (role : Role) (a b : End) : Prop :=
  joined a.role = joined role ∧ joined b.role = "" ∨ joined a.role = "" ∧ joined b.role = joined role

lemma oneJoined_of_owns {joined : Role → String} (hinverse : ∀ key, joined (.inverse key) = "") {a b : End}
    {key : ForeignKey} (h : a.Owns key b ∨ b.Owns key a) : OneJoined joined (.owner key) a b := by
  rcases h with h | h
  · exact .inl ⟨congrArg joined h.owner, (congrArg joined h.inverse).trans (hinverse key)⟩
  · exact .inr ⟨(congrArg joined h.inverse).trans (hinverse key), congrArg joined h.owner⟩

/-- The block of the table of an end has one line for it, and this is its text, maybe under the remark. -/
structure Format.Mentions (f : Format) (s : Schema) (x : End) (text : String) : Prop where
  block : ∃ lines parts, (x.entity, lines) ∈ f.blocks s.resolve ∧ f.Consists s.resolve x.entity parts lines ∧
    (parts.filterMap (·.relation?)).filter (·.field == x.field) = [x]
  line : ∀ line, f.Spells (.relation x) line → line = text ∨ line = "  // Relationships\n" ++ text

lemma Schema.Faces.block {s : Schema} {a b : End} (h : s.Faces a b) {f : Format} (hf : f ≠ .sql)
    (hends : f.endsIn s.resolve a.entity = s.resolve.endsOf a.entity.index) :
    ∃ lines parts, (a.entity, lines) ∈ f.blocks s.resolve ∧ f.Consists s.resolve a.entity parts lines ∧
      (parts.filterMap (·.relation?)).filter (·.field == a.field) = [a] := by
  have htables := f.tables_blocks s.resolve
  rw [if_neg hf, entities_resolve] at htables
  obtain ⟨⟨_, lines⟩, hblock, rfl⟩ := List.mem_map.mp (htables ▸ h.entity)
  obtain ⟨parts, hparts⟩ := Format.exists_parts (fun l => keyInPlace) hblock
  refine ⟨lines, parts, hblock, hparts, ?_⟩
  rw [hparts.ends, hends]
  exact filter_endsOf_field h.mem

namespace SqlAlchemy

def lineTo (a b : End) : String :=
  "    " ++ a.field ++ " = relationship(" ++ ", ".intercalate
    (["\"" ++ b.entity.name ++ "\"", "back_populates=\"" ++ b.field ++ "\""] ++ storageArguments a) ++ ")\n"

lemma mentions {s : Schema} {a b : End} (h : s.Faces a b) : Format.sqlAlchemy.Mentions s a (lineTo a b) where
  block := h.block (by decide) rfl
  line := by
    rintro _ ⟨⟩
    rw [lineTo, ← h.related, ← h.inverseField]
    exact .inl rfl

end SqlAlchemy

namespace TypeOrm

variable {s : Schema} {k : Nat} {r : Relationship} {a b : End}

def decoratorOf (x : End) : String := (relationDecorator x.kind x.cardinality).name

def memberTo (a b : End) : String :=
  "  @" ++ decoratorOf a ++ "(() => " ++ b.entity.name ++ ", (" ++ Text.lowerFirst b.entity.name ++ ") => " ++
    Text.lowerFirst b.entity.name ++ "." ++ b.field ++ ")\n" ++ joined a.role ++ "  " ++ a.field ++ ": " ++
    TypeScript.relatedType a ++ ";"

lemma mentions (h : s.Faces a b) : Format.typeOrm.Mentions s a (memberTo a b) where
  block := h.block (by decide) rfl
  line := by
    intro line hline
    delta memberTo
    rw [← h.related, ← h.inverseField]
    cases hline with
    | plain hmember =>
      cases hmember
      exact .inl rfl
    | remarked hmember =>
      cases hmember
      exact .inr rfl

structure Mirrors (s : Schema) (r : Relationship) (a b : End) : Prop where
  dual : (decoratorOf a, decoratorOf b) ∈ [("OneToOne", "OneToOne"), ("OneToMany", "ManyToOne"),
    ("ManyToOne", "OneToMany"), ("ManyToMany", "ManyToMany")]
  oneToOne : decoratorOf a = "OneToOne" ↔ r.kind = .oneToOne
  manyToMany : decoratorOf a = "ManyToMany" ↔ r.kind = .manyToMany
  key : r.kind ≠ .manyToMany → ∃ key ∈ s.resolve.foreignKeys, OneJoined joined (.owner key) a b
  junction : r.kind = .manyToMany → ∃ j ∈ s.resolve.junctions, OneJoined joined (.junction j true) a b

def RelationDecorator.dual : RelationDecorator → RelationDecorator
  | .oneToOne => .oneToOne
  | .oneToMany => .manyToOne
  | .manyToOne => .oneToMany
  | .manyToMany => .manyToMany

lemma RelationDecorator.name_injective {d d' : RelationDecorator} (h : d.name = d'.name) : d = d' := by
  revert h
  cases d <;> cases d' <;> decide

lemma RelationDecorator.name_dual (d : RelationDecorator) : (d.name, d.dual.name) ∈ [("OneToOne", "OneToOne"),
    ("OneToMany", "ManyToOne"), ("ManyToOne", "OneToMany"), ("ManyToMany", "ManyToMany")] := by
  cases d <;> decide

lemma relationDecorator_eq_oneToOne_iff {kind : RelationKind} {c : Cardinality} :
    relationDecorator kind c = .oneToOne ↔ kind = .oneToOne := by
  cases kind <;> cases c <;> simp [relationDecorator]

lemma relationDecorator_eq_manyToMany_iff {kind : RelationKind} {c : Cardinality} :
    relationDecorator kind c = .manyToMany ↔ kind = .manyToMany := by
  cases kind <;> cases c <;> simp [relationDecorator]

lemma relationDecorator_inverse (kind : RelationKind) :
    relationDecorator kind kind.inverseCardinality = (relationDecorator kind .one).dual := by
  cases kind <;> rfl

lemma RelationDecorator.dual_dual (d : RelationDecorator) : d.dual.dual = d := by
  cases d <;> rfl

end TypeOrm

namespace Schema

variable {s : Schema} {k : Nat} {r : Relationship} {a b : End}

lemma Pairs.kinds (p : s.Pairs k r a b) : a.kind = r.kind ∧ b.kind = r.kind :=
  ⟨p.kind, p.opposes.kind.symm.trans p.kind⟩

lemma Pairs.cardinalities (p : s.Pairs k r a b) (h : r.kind ≠ .manyToMany) :
    a.cardinality = .one ∧ b.cardinality = r.kind.inverseCardinality ∨
      a.cardinality = r.kind.inverseCardinality ∧ b.cardinality = .one := by
  obtain ⟨key, -, -, -, ho | ho⟩ := p.key h
  · exact .inl ⟨ho.cardinality, p.kinds.2 ▸ (Resolution.cardinality_of_mem_ends p.mem_ends.2).2 key ho.inverse⟩
  · exact .inr ⟨p.kinds.1 ▸ (Resolution.cardinality_of_mem_ends p.mem_ends.1).2 key ho.inverse, ho.cardinality⟩

end Schema

namespace TypeOrm

variable {s : Schema} {k : Nat} {r : Relationship} {a b : End}

lemma dual_of_pairs (p : s.Pairs k r a b) :
    relationDecorator b.kind b.cardinality = (relationDecorator a.kind a.cardinality).dual := by
  obtain ⟨ha, hb⟩ := p.kinds
  by_cases h : r.kind = .manyToMany
  · rw [relationDecorator_eq_manyToMany_iff.mpr (ha.trans h), relationDecorator_eq_manyToMany_iff.mpr (hb.trans h)]
    rfl
  · rcases p.cardinalities h with ⟨hca, hcb⟩ | ⟨hca, hcb⟩
    · rw [ha, hb, hca, hcb, relationDecorator_inverse]
    · rw [ha, hb, hca, hcb, relationDecorator_inverse, RelationDecorator.dual_dual]

lemma mirrors (p : s.Pairs k r a b) : Mirrors s r a b where
  dual := by
    rw [decoratorOf, decoratorOf, dual_of_pairs p]
    exact RelationDecorator.name_dual _
  oneToOne := by
    rw [← p.kind, ← relationDecorator_eq_oneToOne_iff (c := a.cardinality)]
    exact ⟨fun h => RelationDecorator.name_injective h, congrArg RelationDecorator.name⟩
  manyToMany := by
    rw [← p.kind, ← relationDecorator_eq_manyToMany_iff (c := a.cardinality)]
    exact ⟨fun h => RelationDecorator.name_injective h, congrArg RelationDecorator.name⟩
  key := by
    intro h
    obtain ⟨key, hk, -, -, ho⟩ := p.key h
    exact ⟨key, List.mem_of_getElem? hk, oneJoined_of_owns (fun _ => rfl) ho⟩
  junction := by
    intro h
    obtain ⟨j, forward, hj, ha, hb, -⟩ := p.junction h
    refine ⟨j, List.mem_of_getElem? hj, ?_⟩
    rw [OneJoined, ha, hb]
    cases forward with
    | true => exact .inl ⟨rfl, rfl⟩
    | false => exact .inr ⟨rfl, rfl⟩

end TypeOrm

namespace Prisma

variable {s : Schema} {k : Nat} {r : Relationship} {a b : End}

def lineTo (a b : End) : String :=
  "  " ++ a.field ++ " " ++ b.entity.name ++ mark a ++ " @relation(\"" ++ a.relation ++ "\"" ++ joined a.role ++ ")\n"

lemma mentions (h : s.Faces a b) : Format.prisma.Mentions s a (lineTo a b) where
  block := h.block (by decide) rfl
  line := by
    rintro _ ⟨⟩
    rw [lineTo, ← h.related]
    exact .inl rfl

structure Mirrors (s : Schema) (r : Relationship) (a b : End) : Prop where
  relation : a.relation = b.relation
  only : ∀ e lines parts, (e, lines) ∈ Format.prisma.blocks s.resolve →
    Format.prisma.Consists s.resolve e parts lines →
      (parts.filterMap (·.relation?)).filter (·.relation == a.relation) = [a, b].filter (·.entity.index == e.index)
  key : r.kind ≠ .manyToMany → ∃ key ∈ s.resolve.foreignKeys, OneJoined joined (.owner key) a b
  junction : r.kind = .manyToMany → joined a.role = "" ∧ joined b.role = ""

lemma mirrors (p : s.Pairs k r a b) : Mirrors s r a b where
  relation := p.opposes.relation
  only := by
    intro e lines parts _ hparts
    rw [hparts.ends]
    show (s.resolve.endsOf e.index).filter (·.relation == a.relation) = _
    rw [Resolution.endsOf, List.filter_comm, p.filter_ends]
  key := by
    intro h
    obtain ⟨key, hk, -, -, ho⟩ := p.key h
    exact ⟨key, List.mem_of_getElem? hk, oneJoined_of_owns (fun _ => rfl) ho⟩
  junction := by
    intro h
    obtain ⟨j, forward, -, ha, hb, -⟩ := p.junction h
    rw [ha, hb]
    exact ⟨rfl, rfl⟩

end Prisma

namespace Schema

variable {s : Schema} {k : Nat} {r : Relationship}

theorem ends_name_each_other (s : Schema) (h : s.usable[k]? = some r) :
    (∀ f : Format, s.generate f = f.comment (f.title s.name) ++ "\n\n" ++ f.laidOut s.resolve) ∧
      ∃ a b, s.Pairs k r a b ∧
        (Format.sqlAlchemy.Mentions s a (SqlAlchemy.lineTo a b) ∧
          Format.sqlAlchemy.Mentions s b (SqlAlchemy.lineTo b a)) ∧
        (Format.typeOrm.Mentions s a (TypeOrm.memberTo a b) ∧ Format.typeOrm.Mentions s b (TypeOrm.memberTo b a) ∧
          TypeOrm.Mirrors s r a b) ∧
        (Format.prisma.Mentions s a (Prisma.lineTo a b) ∧ Format.prisma.Mentions s b (Prisma.lineTo b a) ∧
          Prisma.Mirrors s r a b) := by
  obtain ⟨rs, x, y, l, m⟩ := exists_made h
  have p := m.pairs
  obtain ⟨hab, hba⟩ := p.faces
  refine ⟨?_, _, _, p, ⟨SqlAlchemy.mentions hab, SqlAlchemy.mentions hba⟩,
    ⟨TypeOrm.mentions hab, TypeOrm.mentions hba, TypeOrm.mirrors p⟩,
    ⟨Prisma.mentions hab, Prisma.mentions hba, Prisma.mirrors p⟩⟩
  apply generate_laidOut
  obtain ⟨t, ht, -⟩ := m.source.table
  exact List.ne_nil_of_mem (List.mem_of_getElem? ht)

theorem ends_name_each_other_sharedTeam :
    sharedTeam.usable[1]? = some { source := "a", target := "a", declared := some .oneToOne } ∧
      (∀ f : Format, sharedTeam.generate f =
        f.comment (f.title sharedTeam.name) ++ "\n\n" ++ f.laidOut sharedTeam.resolve) ∧
      ∃ a b, sharedTeam.Pairs 1 { source := "a", target := "a", declared := some .oneToOne } a b ∧
        (Format.sqlAlchemy.Mentions sharedTeam a (SqlAlchemy.lineTo a b) ∧
          Format.sqlAlchemy.Mentions sharedTeam b (SqlAlchemy.lineTo b a)) ∧
        (Format.typeOrm.Mentions sharedTeam a (TypeOrm.memberTo a b) ∧
          Format.typeOrm.Mentions sharedTeam b (TypeOrm.memberTo b a) ∧
          TypeOrm.Mirrors sharedTeam { source := "a", target := "a", declared := some .oneToOne } a b) ∧
        (Format.prisma.Mentions sharedTeam a (Prisma.lineTo a b) ∧
          Format.prisma.Mentions sharedTeam b (Prisma.lineTo b a) ∧
          Prisma.Mirrors sharedTeam { source := "a", target := "a", declared := some .oneToOne } a b) :=
  ⟨rfl, ends_name_each_other sharedTeam rfl⟩

end Schema

end SchemaCode
