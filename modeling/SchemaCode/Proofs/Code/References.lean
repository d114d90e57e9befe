import Mathlib.Data.Sym.Sym2
import SchemaCode.Code.Dbml
import SchemaCode.Proofs.Relation.Junctions
import SchemaCode.Proofs.Sql.Statements

namespace SchemaCode

namespace Schema

variable {s : Schema} {l : Link} {j : Junction} {k : Nat} {forward : Bool}

lemma exists_founder (h : j ∈ s.resolve.junctions) :
    ∃ l ∈ s.resolve.links, l.storage = .junction j true ∧ l.source = j.source.entity ∧ l.target = j.target.entity := by
  obtain ⟨i, hi⟩ := List.mem_iff_getElem?.mp h
  obtain ⟨rs, r, a, b, hf⟩ := exists_founds hi
  obtain ⟨more, hs⟩ := hf.precedes
  rcases draftAfter_cases rs r with ⟨-, a', b', l, ha, hb, hg⟩ | ⟨hr, -⟩
  · obtain rfl := ha.eq hf.source
    obtain rfl := hb.eq hf.target
    obtain ⟨j', hstorage, ⟨hfound, -⟩ | ⟨-, hfresh, -⟩⟩ := hg.junction hf.kind
    · cases hfound.symm.trans hf.new
    · obtain rfl : j' = j := hfresh.trans hf.made.symm
      have hsource := hf.refersTo.1.entity
      have hlinks := (prefix_draftAfter (s := s) (rs ++ [r]) more).1
      rw [hs, hg.links] at hlinks
      refine ⟨l, hlinks.subset (List.mem_append_right _ List.mem_cons_self), ?_, hg.source.trans hsource.symm,
        hg.target.trans hf.refersTo.2.entity.symm⟩
      rw [hstorage, hsource, beq_self_eq_true]
  · rw [uses_iff.mpr ⟨⟨a, hf.source⟩, b, hf.target⟩] at hr
    cases hr

end Schema

namespace Dbml

def Ref.ends (r : Ref) : Sym2 String := s(r.left.render, r.right.render)

def owning (key : ForeignKey) : Endpoint := ⟨key.owner, key.column⟩

def referenced (key : ForeignKey) : Endpoint := ⟨key.referenced, key.referencedColumn⟩

/-- The columns that a link is stored by: that of its key and the one it refers to, or those that its junction refers
to. -/
def storedEnds (l : Link) : Sym2 String :=
  match l.storage with
  | .column key _ => s((owning key).render, (referenced key).render)
  | .junction j _ =>
    s(Endpoint.render ⟨j.source.entity, j.source.referencedColumn⟩,
      Endpoint.render ⟨j.target.entity, j.target.referencedColumn⟩)

def operatorOf : RelationKind → Operator
  | .oneToMany => .oneToMany
  | .manyToOne => .manyToOne
  | .oneToOne => .oneToOne
  | .manyToMany => .manyToMany

def Joins (r : Resolution) (line : String) (ends : Sym2 String) : Prop :=
  ∃ l ∈ r.links, (refOf l).render = line ∧ (refOf l).ends = ends

section Lines

variable {a b : Ref} {r : Resolution} {l : Link}

lemma operatorOf_injective {kind kind' : RelationKind} (h : operatorOf kind = operatorOf kind') : kind = kind' := by
  revert h
  cases kind <;> cases kind' <;> decide

lemma mem_refLines (hl : l ∈ r.links) : (refOf l).render ∈ refLines r :=
  List.mem_eraseDups.mpr (List.mem_map_of_mem hl)

lemma nodup_refLines (r : Resolution) : (refLines r).Nodup := by
  have hsame : ∀ a ∈ r.links.map (fun l => (refOf l).render), ∀ b ∈ r.links.map (fun l => (refOf l).render),
      (a == b) = true ↔ id a = id b := fun _ _ _ _ => beq_iff_eq
  have hnodup := (eraseDupsBy_alike hsame).2.1
  rwa [List.map_id] at hnodup

lemma count_render (a : Ref) (c : Char) : a.render.toList.count c =
    "Ref:   \n".toList.count c + a.operator.mark.toList.count c +
      (a.left.render.toList.count c + a.right.render.toList.count c) := by
  have hspaces : "Ref:   \n".toList = "Ref: ".toList ++ " ".toList ++ " ".toList ++ "\n".toList := rfl
  rw [Ref.render, hspaces]
  simp only [String.toList_append, List.count_append]
  omega

lemma count_ends {c : Char} (h : a.ends = b.ends) :
    a.left.render.toList.count c + a.right.render.toList.count c =
      b.left.render.toList.count c + b.right.render.toList.count c := by
  rcases Sym2.eq_iff.mp h with ⟨hleft, hright⟩ | ⟨hleft, hright⟩
  · rw [hleft, hright]
  · rw [hleft, hright, Nat.add_comm]

lemma operator_eq_of_render_eq (hends : a.ends = b.ends) (h : a.render = b.render) : a.operator = b.operator := by
  -- names of columns may have marks in them, so the line cannot be taken apart; but the same columns have the same ones
  have hcount : ∀ c, a.operator.mark.toList.count c = b.operator.mark.toList.count c := by
    intro c
    have hlines := congrArg (fun line => line.toList.count c) h
    rw [count_render, count_render, count_ends hends] at hlines
    exact Nat.add_left_cancel (Nat.add_right_cancel hlines)
  have hless := hcount '<'
  have hmore := hcount '>'
  revert hless hmore
  cases a.operator <;> cases b.operator <;> decide

lemma render_eq (hends : a.ends = b.ends) (hleft : a.left.render = b.left.render) (h : a.operator = b.operator) :
    a.render = b.render := by
  have hright : a.right.render = b.right.render := by
    rcases Sym2.eq_iff.mp hends with ⟨-, hright⟩ | ⟨hswap, hright⟩
    · exact hright
    · rw [hright, ← hleft, hswap]
  rw [Ref.render, Ref.render, hleft, hright, h]

lemma ends_of_column {key : ForeignKey} {atSource : Bool} (h : l.storage = .column key atSource) :
    (refOf l).ends = storedEnds l := by
  rw [refOf, storedEnds, h]
  cases l.kind with
  | oneToMany => exact Sym2.eq_swap
  | oneToOne => rfl
  | manyToOne => rfl
  | manyToMany => rfl

end Lines

section Links

variable {s : Schema} {l l' : Link}

lemma operator_refOf (hl : l ∈ s.resolve.links) : (refOf l).operator = operatorOf l.kind := by
  obtain ⟨k, hk⟩ := List.mem_iff_getElem?.mp hl
  obtain ⟨r, rs, a, b, -, m⟩ := Schema.exists_made_of_link hk
  rw [refOf]
  cases h : l.storage with
  | junction j forward => rw [m.grows.kind, (m.liesOn_iff h).1, operatorOf]
  | column key atSource =>
    obtain ⟨o, ho, -⟩ := m.exists_ownership h
    have hkind := Relationship.kind_ne_manyToMany ho
    rw [← m.grows.kind] at hkind
    cases hl : l.kind with
    | oneToMany => rfl
    | oneToOne => rfl
    | manyToOne => rfl
    | manyToMany => exact absurd hl hkind

lemma exists_joins (hl : l ∈ s.resolve.links) :
    ∃ line ∈ refLines s.resolve, Joins s.resolve line (storedEnds l) := by
  cases h : l.storage with
  | column key atSource => exact ⟨_, mem_refLines hl, l, hl, rfl, ends_of_column h⟩
  | junction j forward =>
    obtain ⟨k, hk⟩ := List.mem_iff_getElem?.mp hl
    obtain ⟨r, rs, a, b, -, m⟩ := Schema.exists_made_of_link hk
    -- the link itself may join other tables than its junction does, but the one that the junction was made for does not
    obtain ⟨l', hl', hstorage, hsource, htarget⟩ := Schema.exists_founder (List.mem_of_getElem? (m.liesOn_iff h).2.1)
    refine ⟨_, mem_refLines hl', l', hl', rfl, ?_⟩
    simp only [Ref.ends, refOf, storedEnds, h, hstorage, hsource, htarget, if_true]

lemma kind_eq_of_render_eq (hl : l ∈ s.resolve.links) (hl' : l' ∈ s.resolve.links)
    (hends : (refOf l).ends = (refOf l').ends) (h : (refOf l).render = (refOf l').render) : l.kind = l'.kind := by
  have hoperator := operator_eq_of_render_eq hends h
  rw [operator_refOf hl, operator_refOf hl'] at hoperator
  exact operatorOf_injective hoperator

lemma render_eq_of_kind_eq (hl : l ∈ s.resolve.links) (hl' : l' ∈ s.resolve.links)
    (hends : (refOf l).ends = (refOf l').ends) (hkind : l.kind = l'.kind)
    (hleft : (refOf l).left.render = (refOf l').left.render) : (refOf l).render = (refOf l').render := by
  refine render_eq hends hleft ?_
  rw [operator_refOf hl, operator_refOf hl', hkind]

lemma render_eq_iff_kind_eq (hl : l ∈ s.resolve.links) (hl' : l' ∈ s.resolve.links) {key key' : ForeignKey}
    {atSource atSource' : Bool} (h : l.storage = .column key atSource) (h' : l'.storage = .column key' atSource')
    (howner : (owning key).render = (owning key').render)
    (hreferenced : (referenced key).render = (referenced key').render) :
    (refOf l).render = (refOf l').render ↔ l.kind = l'.kind := by
  have hends : (refOf l).ends = (refOf l').ends := by
    rw [ends_of_column h, ends_of_column h', storedEnds, storedEnds, h, h']
    exact congrArg₂ (s(·, ·)) howner hreferenced
  refine ⟨kind_eq_of_render_eq hl hl' hends, fun hkind => render_eq_of_kind_eq hl hl' hends hkind ?_⟩
  rw [refOf, refOf, h, h', hkind]
  cases l'.kind with
  | oneToMany => exact hreferenced
  | oneToOne => exact howner
  | manyToOne => exact howner
  | manyToMany => exact howner

structure OneRefEach (r : Resolution) : Prop where
  distinct : ∀ line ∈ refLines r, ∀ line' ∈ refLines r, ∀ ends, Joins r line ends → Joins r line' ends → line = line'
  once : ∀ l ∈ r.links, ∃! line, line ∈ refLines r ∧ Joins r line (storedEnds l)

lemma oneRefEach_iff : OneRefEach s.resolve ↔ ∀ l ∈ s.resolve.links, ∀ l' ∈ s.resolve.links,
    (refOf l).ends = (refOf l').ends → (refOf l).render = (refOf l').render := by
  constructor
  · intro h l hl l' hl' hends
    exact h.distinct _ (mem_refLines hl) _ (mem_refLines hl') _ ⟨l, hl, rfl, hends⟩ ⟨l', hl', rfl, rfl⟩
  · intro h
    have hjoins : ∀ line line' ends, Joins s.resolve line ends → Joins s.resolve line' ends → line = line' := by
      rintro line line' ends ⟨l, hl, rfl, hends⟩ ⟨l', hl', rfl, hends'⟩
      exact h l hl l' hl' (hends.trans hends'.symm)
    refine ⟨fun line _ line' _ => hjoins line line', fun l hl => ?_⟩
    obtain ⟨line, hmem, hline⟩ := exists_joins hl
    exact ⟨line, ⟨hmem, hline⟩, fun line' h' => hjoins _ _ _ h'.2 hline⟩

structure LinesOfLinks (r : Resolution) : Prop where
  nodup : (refLines r).Nodup
  joined : ∀ l ∈ r.links, ∃ line ∈ refLines r, Joins r line (storedEnds l)
  kind_eq : ∀ l ∈ r.links, ∀ l' ∈ r.links, (refOf l).ends = (refOf l').ends →
    (refOf l).render = (refOf l').render → l.kind = l'.kind
  render_eq : ∀ l ∈ r.links, ∀ l' ∈ r.links, (refOf l).ends = (refOf l').ends →
    l.kind = l'.kind → (refOf l).left.render = (refOf l').left.render → (refOf l).render = (refOf l').render
  shared : ∀ l ∈ r.links, ∀ l' ∈ r.links, ∀ key key' atSource atSource', l.storage = .column key atSource →
    l'.storage = .column key' atSource' → (owning key).render = (owning key').render →
    (referenced key).render = (referenced key').render → ((refOf l).render = (refOf l').render ↔ l.kind = l'.kind)

theorem linesOfLinks_oneRefEach (s : Schema) : LinesOfLinks s.resolve ∧
    (OneRefEach s.resolve ↔ ∀ l ∈ s.resolve.links, ∀ l' ∈ s.resolve.links,
      (refOf l).ends = (refOf l').ends → (refOf l).render = (refOf l').render) := by
  refine ⟨⟨nodup_refLines _, fun l => exists_joins, ?_, ?_, ?_⟩, oneRefEach_iff⟩
  · exact fun l hl l' hl' => kind_eq_of_render_eq hl hl'
  · exact fun l hl l' hl' => render_eq_of_kind_eq hl hl'
  · exact fun l hl l' hl' key key' atSource atSource' => render_eq_iff_kind_eq hl hl'

def bothWays : Schema where
  tables := [
    { id := "a", name := "User", columns := some [{ name := "id", type := .uuid, primary := true }] },
    { id := "b", name := "Post", columns := some [{ name := "id", type := .uuid, primary := true }] }]
  relationships := [
    { source := "a", target := "b", declared := some .oneToMany },
    { source := "b", target := "a", declared := some .manyToOne }]

theorem bothWays_not_oneRefEach :
    (bothWays.entities.map (·.lowerName)).Nodup ∧
      refLines bothWays.resolve = ["Ref: user.id < post.user_id\n", "Ref: post.user_id > user.id\n"] ∧
      ¬ OneRefEach bothWays.resolve := by
  have hlines : refLines bothWays.resolve = ["Ref: user.id < post.user_id\n", "Ref: post.user_id > user.id\n"] := by
    decide +kernel
  refine ⟨by decide +kernel, hlines, fun h => ?_⟩
  have hline := oneRefEach_iff.mp h _ (List.mem_of_getElem? (i := 0) rfl) _ (List.mem_of_getElem? (i := 1) rfl) ?_
  · revert hline
    decide +kernel
  · exact Sym2.eq_iff.mpr (.inr ⟨by decide +kernel, by decide +kernel⟩)

end Links

end Dbml

end SchemaCode
