import SchemaCode.Proofs.Rearranging.Alike

namespace SchemaCode

namespace Draft

variable {d d' : Draft} {t : Nat} {a b : Entity}

lemma sidesOn_of_sides {σs : List (List End)} (h : d'.sides = d.sides ++ σs) (t : Nat) :
    d'.sidesOn t = d.sidesOn t ++ σs.flatten.filter (·.entity.index == t) := by
  rw [sidesOn, h, List.flatten_append, List.filter_append, sidesOn]

lemma filter_eq_nil_of_apart {σ : List End} (h : ∀ e ∈ σ, e.entity = a ∨ e.entity = b) (ha : t ≠ a.index)
    (hb : t ≠ b.index) : σ.filter (·.entity.index == t) = [] := by
  rw [List.filter_eq_nil_iff]
  intro e he
  rw [beq_iff_eq]
  rcases h e he with h | h
  · exact h ▸ ha.symm
  · exact h ▸ hb.symm

end Draft

namespace Schema

def Touches (s : Schema) (r : Relationship) (e : Entity) : Prop :=
  s.uses r = true ∧ (s.First r.source e ∨ s.First r.target e)

def Apart (s : Schema) (r r' : Relationship) : Prop := ∀ e, s.Touches r e → ¬ s.Touches r' e

variable {s : Schema} {T : Nat → Prop} {rs rs' rs'' : List Relationship} {r r' : Relationship} {a b : Entity}

namespace AlikeOn

lemma refl (s : Schema) (T : Nat → Prop) (rs : List Relationship) : s.AlikeOn T rs rs := ⟨rfl, fun _ _ => rfl⟩

lemma symm (h : s.AlikeOn T rs rs') : s.AlikeOn T rs' rs := ⟨h.junctions.symm, fun t ht => (h.sides t ht).symm⟩

lemma trans (h : s.AlikeOn T rs rs') (h' : s.AlikeOn T rs' rs'') : s.AlikeOn T rs rs'' :=
  ⟨h'.junctions.trans h.junctions, fun t ht => (h'.sides t ht).trans (h.sides t ht)⟩

lemma append (h : s.AlikeOn (fun _ => True) rs rs') (more : List Relationship) :
    s.AlikeOn (fun _ => True) (rs ++ more) (rs' ++ more) := by
  induction more generalizing rs rs' with
  | nil => simpa using h
  | cons r more ih =>
    obtain ⟨σs, hσ, hσ', hj⟩ := h.concat (.inl rfl : r.Alike r)
    have hnext : s.AlikeOn (fun _ => True) (rs ++ [r]) (rs' ++ [r]) := by
      refine ⟨hj, ?_⟩
      intro t ht
      rw [Draft.sidesOn_of_sides hσ, Draft.sidesOn_of_sides hσ', h.sides t ht]
    simpa using ih hnext

end AlikeOn

lemma alikeOn_concat_of_not_uses (rs : List Relationship) (h : s.uses r = false) : s.AlikeOn T rs (rs ++ [r]) := by
  obtain ⟨hsides, hj⟩ := draftAfter_of_not_uses rs h
  refine ⟨hj, ?_⟩
  intro t _
  rw [Draft.sidesOn, Draft.sidesOn, hsides]

lemma alikeOn_swap_of_not_uses (rs : List Relationship) (r' : Relationship) (h : s.uses r = false) :
    s.AlikeOn (fun _ => True) (rs ++ [r] ++ [r']) (rs ++ [r'] ++ [r]) :=
  ((alikeOn_concat_of_not_uses rs h).append [r']).symm.trans (alikeOn_concat_of_not_uses (rs ++ [r']) h)

lemma alikeOn_concat (rs : List Relationship) (hk : r.kind ≠ .manyToMany) (ha : s.First r.source a)
    (hb : s.First r.target b) : s.AlikeOn (fun t => t ≠ a.index ∧ t ≠ b.index) rs (rs ++ [r]) := by
  obtain ⟨σ, hσ, -, -, hlie⟩ := (AlikeOn.refl s (fun _ => True) rs).exists_sides (.inl rfl) ha hb trivial trivial
  have hj : (s.draftAfter (rs ++ [r])).junctions = (s.draftAfter rs).junctions := by
    obtain ⟨o, ho⟩ := Relationship.exists_ownership hk a b
    rw [draftAfter_concat_eq_link ha hb, Draft.link_eq_linkByKey _ ho]
    simp [Draft.linkByKey_eq, Draft.addLink]
  refine ⟨hj, ?_⟩
  rintro t ⟨hta, htb⟩
  have hnil : [σ].flatten.filter (·.entity.index == t) = [] := by
    simpa using Draft.filter_eq_nil_of_apart hlie hta htb
  rw [Draft.sidesOn_of_sides hσ, hnil, List.append_nil]

lemma Apart.index_ne (h : s.Apart r r') (ha : s.Touches r a) (hb : s.Touches r' b) : a.index ≠ b.index := by
  have hmem : ∀ {r e}, s.Touches r e → e ∈ s.entities := fun he => he.2.elim First.mem First.mem
  intro hi
  obtain rfl := eq_of_index_eq (hmem ha) (hmem hb) hi
  exact h a ha hb

lemma alikeOn_swap_of_uses (rs : List Relationship) (hk : r.kind ≠ .manyToMany) (hk' : r'.kind ≠ .manyToMany)
    (h : s.Apart r r') (hr : s.uses r = true) (hr' : s.uses r' = true) :
    s.AlikeOn (fun _ => True) (rs ++ [r] ++ [r']) (rs ++ [r'] ++ [r]) := by
  obtain ⟨⟨a, ha⟩, b, hb⟩ := uses_iff.mp hr
  obtain ⟨⟨a', ha'⟩, b', hb'⟩ := uses_iff.mp hr'
  have haa := h.index_ne ⟨hr, .inl ha⟩ ⟨hr', .inl ha'⟩
  have hab := h.index_ne ⟨hr, .inl ha⟩ ⟨hr', .inr hb'⟩
  have hba := h.index_ne ⟨hr, .inr hb⟩ ⟨hr', .inl ha'⟩
  have hbb := h.index_ne ⟨hr, .inr hb⟩ ⟨hr', .inr hb'⟩
  have hfirst := alikeOn_concat rs hk ha hb
  have hsecond := alikeOn_concat rs hk' ha' hb'
  -- each of the two adds the same sides whether or not the other comes before it
  obtain ⟨σ, hσ, hlast, hj, hlie⟩ := hsecond.exists_sides (.inl rfl : r.Alike r) ha hb ⟨haa, hab⟩ ⟨hba, hbb⟩
  obtain ⟨σ', hσ', hlast', hj', hlie'⟩ := hfirst.exists_sides (.inl rfl : r'.Alike r') ha' hb'
    ⟨haa.symm, hba.symm⟩ ⟨hab.symm, hbb.symm⟩
  refine ⟨?_, ?_⟩
  · rw [hj, hj', hfirst.junctions, hsecond.junctions]
  · intro t _
    rw [Draft.sidesOn_of_sides hlast, Draft.sidesOn_of_sides hσ', Draft.sidesOn_of_sides hlast',
      Draft.sidesOn_of_sides hσ]
    simp only [List.flatten_cons, List.flatten_nil, List.append_nil, List.append_assoc]
    by_cases ht : t ≠ a.index ∧ t ≠ b.index
    · rw [Draft.filter_eq_nil_of_apart hlie ht.1 ht.2, List.append_nil, List.nil_append]
    · have ht' : t ≠ a'.index ∧ t ≠ b'.index := by
        rw [not_and_or, not_not, not_not] at ht
        rcases ht with rfl | rfl
        · exact ⟨haa, hab⟩
        · exact ⟨hba, hbb⟩
      rw [Draft.filter_eq_nil_of_apart hlie' ht'.1 ht'.2, List.append_nil, List.nil_append]

lemma alikeOn_swap (rs : List Relationship) (hk : r.kind ≠ .manyToMany) (hk' : r'.kind ≠ .manyToMany)
    (h : s.Apart r r') : s.AlikeOn (fun _ => True) (rs ++ [r] ++ [r']) (rs ++ [r'] ++ [r]) := by
  cases hr : s.uses r with
  | false => exact alikeOn_swap_of_not_uses rs r' hr
  | true =>
    cases hr' : s.uses r' with
    | false => exact (alikeOn_swap_of_not_uses rs r hr').symm
    | true => exact alikeOn_swap_of_uses rs hk hk' h hr hr'

structure SameTables (s s' : Schema) : Prop where
  generate : ∀ f ∈ Format.tablewise, s.generate f = s'.generate f
  columns : ∀ t, s.resolve.columnsAt t = s'.resolve.columnsAt t
  addedColumns : ∀ t, s.resolve.addedColumnsOf t = s'.resolve.addedColumnsOf t
  fields : ∀ t, (s.resolve.endsOf t).map (·.field) = (s'.resolve.endsOf t).map (·.field)
  order : s.resolve.dependencyOrder = s'.resolve.dependencyOrder

lemma AlikeOn.sameTables (h : s.AlikeOn (fun _ => True) rs rs') : (s.relating rs).SameTables (s.relating rs') := by
  have hlook := h.looksLike
  refine ⟨?_, ?_, ?_, ?_, ?_⟩
  · intro f hf
    exact s.generate_relating rs rs' f (Format.code_looksLike hlook hf)
  · exact fun t => (hlook.columnsAt_eq t).symm
  · exact fun t => (hlook.addedColumnsOf t).symm
  · exact fun t => (hlook.map_endsOf (fun _ _ => rfl) t).symm
  · exact hlook.dependencyOrder_eq.symm

theorem sameTables_swapping (s : Schema) {before after : List Relationship}
    (hs : s.relationships = before ++ r :: r' :: after) (hk : r.kind ≠ .manyToMany) (hk' : r'.kind ≠ .manyToMany)
    (h : s.Apart r r') : s.SameTables (s.relating (before ++ r' :: r :: after)) := by
  have halike := (alikeOn_swap before hk hk' h).append after
  simp only [List.append_assoc, List.cons_append, List.nil_append] at halike
  rw [← hs] at halike
  exact halike.sameTables

def twoPairs : Schema where
  tables := [
    { id := "a", name := "User", columns := some [{ name := "id", type := .uuid, primary := true }] },
    { id := "b", name := "Team", columns := some [{ name := "id", type := .uuid, primary := true }] },
    { id := "c", name := "Post", columns := some [{ name := "id", type := .integer, primary := true }] },
    { id := "d", name := "Tag", columns := some [{ name := "id", type := .integer, primary := true }] }]
  relationships := [
    { source := "c", target := "d", declared := some .manyToMany },
    { source := "a", target := "b", declared := some .manyToOne },
    { source := "c", target := "d" },
    { source := "b", target := "a", declared := some .oneToOne },
    { source := "d", target := "a" }]

theorem sameTables_swapping_twoPairs :
    twoPairs.relationships = [{ source := "c", target := "d", declared := some .manyToMany }] ++
        { source := "a", target := "b", declared := some .manyToOne } :: { source := "c", target := "d" } ::
          [{ source := "b", target := "a", declared := some .oneToOne }, { source := "d", target := "a" }] ∧
      twoPairs.Apart { source := "a", target := "b", declared := some .manyToOne } { source := "c", target := "d" } ∧
      twoPairs.SameTables (twoPairs.relating ([{ source := "c", target := "d", declared := some .manyToMany }] ++
        { source := "c", target := "d" } :: { source := "a", target := "b", declared := some .manyToOne } ::
          [{ source := "b", target := "a", declared := some .oneToOne }, { source := "d", target := "a" }])) := by
  have hapart : twoPairs.Apart { source := "a", target := "b", declared := some .manyToOne }
      { source := "c", target := "d" } := by
    rintro e ⟨-, he⟩ ⟨-, he'⟩
    have hid : e.id = "a" ∨ e.id = "b" := he.imp First.carries First.carries
    have hid' : e.id = "c" ∨ e.id = "d" := he'.imp First.carries First.carries
    rcases hid with h | h <;> simp [h] at hid'
  exact ⟨rfl, hapart, sameTables_swapping twoPairs rfl RelationKind.noConfusion RelationKind.noConfusion hapart⟩

end Schema

end SchemaCode
