import SchemaCode.Proofs.Relation.Ends

namespace SchemaCode

namespace Notice

def isDrop : Notice → Bool
  | .unusableSource .. => true
  | .unusableTarget .. => true
  | _ => false

end Notice

namespace Draft

variable (d : Draft)

lemma notices_reserve (key : ForeignKey) : (d.reserve key).notices = d.notices := by
  rw [reserve]
  split <;> rfl

lemma drops_junction (r : Relationship) (a b : Entity) :
    (d.junction r a b).2.notices.filter Notice.isDrop = d.notices.filter Notice.isDrop := by
  rw [junction]
  split
  · rfl
  · dsimp only
    split
    · rfl
    · simp [notice, claim, Notice.isDrop]

lemma drops_link (r : Relationship) (a b : Entity) :
    (d.link r a b).notices.filter Notice.isDrop = d.notices.filter Notice.isDrop := by
  rw [link]
  dsimp only
  split
  · exact congrArg (List.filter Notice.isDrop) (notices_reserve _ _)
  · exact drops_junction _ r a b

end Draft

namespace Schema

variable {s : Schema}

def drop? (s : Schema) (r : Relationship) : Option Notice :=
  if s.knows r.source then
    if s.knows r.target then none else some (.unusableTarget r.id r.kind r.target)
  else some (.unusableSource r.id r.kind r.source)

lemma drop?_eq_none_iff {r : Relationship} : s.drop? r = none ↔ s.uses r = true := by
  rw [drop?, uses, Bool.and_eq_true]
  split
  · split
    · simp [*]
    · simp [*]
  · simp [*]

lemma knows_eq_isSome_find? (rs : List Relationship) (id : String) :
    s.knows id = ((s.draftAfter rs).find? id).isSome := by
  rw [Bool.eq_iff_iff, knows_iff, Option.isSome_iff_exists]
  exact exists_congr fun e => (find?_draftAfter_iff rs).symm

lemma drops_concat (rs : List Relationship) (r : Relationship) :
    (s.draftAfter (rs ++ [r])).notices.filter Notice.isDrop =
      (s.draftAfter rs).notices.filter Notice.isDrop ++ (s.drop? r).toList := by
  rw [draftAfter_concat, Draft.add, drop?, knows_eq_isSome_find? rs, knows_eq_isSome_find? rs]
  cases (s.draftAfter rs).find? r.source with
  | none => simp [Draft.notice, Notice.isDrop]
  | some a =>
    cases (s.draftAfter rs).find? r.target with
    | none => simp [Draft.notice, Notice.isDrop]
    | some b => simp [Draft.drops_link]

lemma drops_draftAfter (rs : List Relationship) :
    (s.draftAfter rs).notices.filter Notice.isDrop = rs.filterMap s.drop? := by
  induction rs using List.reverseRecOn with
  | nil => rfl
  | append_singleton rs r ih =>
    rw [drops_concat, ih, List.filterMap_append]
    cases hr : s.drop? r <;> simp [hr]

lemma drops_resolveNotices (s : Schema) :
    s.resolveNotices.filter Notice.isDrop = s.relationships.filterMap s.drop? :=
  drops_draftAfter s.relationships

lemma length_usable_add_drops (s : Schema) :
    s.usable.length + (s.resolveNotices.filter Notice.isDrop).length = s.relationships.length := by
  have hdrop : ∀ r, (s.drop? r).isSome = !s.uses r := by
    intro r
    cases hr : s.drop? r with
    | none => simp [drop?_eq_none_iff.mp hr]
    | some n =>
      have huses : ¬ s.uses r = true := by
        rw [← drop?_eq_none_iff, hr]
        exact Option.some_ne_none n
      simp [huses]
  rw [drops_resolveNotices, List.length_filterMap_eq_countP, List.countP_eq_length_filter,
    List.filter_congr fun r _ => hdrop r]
  exact (List.length_eq_length_filter_add s.uses).symm

lemma length_ends_add_drops (s : Schema) :
    s.resolve.ends.length + 2 * (s.resolveNotices.filter Notice.isDrop).length = 2 * s.relationships.length := by
  have hends : s.resolve.ends.length = 2 * s.usable.length := by
    rw [Resolution.length_ends]
    exact congrArg (2 * ·) (length_links_draftAfter s.relationships)
  have hlength := length_usable_add_drops s
  omega

end Schema

end SchemaCode
