import Mathlib.Data.List.Forall2
import SchemaCode.Proofs.Rearranging.Alike

namespace SchemaCode

def Role.isInverse : Role → Bool
  | .owner _ => false
  | .inverse _ => true
  | .junction _ _ => false

namespace Sequelize

def associationOf (e : End) : Association where
  model := e.entity
  related := e.related
  call := match e.role with
    | .owner key => .belongsTo key.column key.referencedColumn
    | .inverse key => match e.cardinality with
      | .one => .hasOne key.column key.referencedColumn
      | .many => .hasMany key.column key.referencedColumn
    | .junction j true => .belongsToMany j.name j.source.column j.target.column
    | .junction j false => .belongsToMany j.name j.target.column j.source.column
  name := e.field

def callOrder (σ : List End) : List End := σ.filter (·.role.isInverse) ++ σ.filter (!·.role.isInverse)

lemma associationsOf_eq (l : Link) : associationsOf l = (callOrder l.sides).map associationOf := by
  rcases l with ⟨kind, name, source, target, sourceField, targetField, ⟨key, _ | _⟩ | ⟨j, _ | _⟩⟩
  · cases kind <;> rfl
  · cases kind <;> rfl
  · rfl
  · rfl

lemma associations_eq (r : Resolution) :
    associations r = (r.links.map (·.sides)).flatMap fun σ => (callOrder σ).map associationOf := by
  rw [associations, List.flatMap_map]
  exact List.flatMap_congr fun l _ => associationsOf_eq l

end Sequelize

lemma Draft.seen_foreignKeys (d : Draft) :
    d.foreignKeys.map (·.seen) = d.sides.flatten.filterMap (·.role.ownedKey?) := by
  rw [foreignKeys, List.filterMap_eq_flatMap_toList, List.map_flatMap, sides, ← List.flatMap_def,
    List.filterMap_flatMap]
  exact List.flatMap_congr fun l _ => l.ownedKeys_sides.symm

namespace Schema

structure LinksAlike (s : Schema) (rs rs' : List Relationship) : Prop where
  junctions : (s.draftAfter rs').junctions = (s.draftAfter rs).junctions
  sides : (s.draftAfter rs').sides = (s.draftAfter rs).sides

variable {s : Schema} {rs rs' : List Relationship}

lemma foreignKeys_draftAfter_eq (rs : List Relationship) : (s.draftAfter rs).foreignKeys =
    ((s.draftAfter rs).foreignKeys.map (·.seen)).mapIdx fun i key => { key with index := i } := by
  -- a key is numbered by its position, so it can be told from what is seen of it
  induction rs using s.draftAfter_induction with
  | start => rfl
  | drop rs r n hr ih => exact ih
  | grow rs r a b l d hr ha hb hg ih =>
    rw [hg.foreignKeys]
    cases ho : r.ownership? a b with
    | none =>
      obtain ⟨j, hj, -⟩ := hg.junction (Relationship.ownership?_eq_none_iff.mp ho)
      have hkey : l.foreignKey? = none := by simp [Link.foreignKey?, hj]
      simpa [hkey] using ih
    | some o =>
      have hkey : l.foreignKey? = some ((s.draftAfter rs).foreignKey o) := by
        simp [Link.foreignKey?, (hg.key o ho).1]
      rw [hkey, Option.toList_some, List.map_append, List.mapIdx_append, ← ih]
      simp [ForeignKey.seen, Draft.foreignKey]

namespace LinksAlike

lemma alikeOn (h : s.LinksAlike rs rs') : s.AlikeOn (fun _ => True) rs rs' where
  junctions := h.junctions
  sides t _ := by rw [Draft.sidesOn, Draft.sidesOn, h.sides]

lemma append (h : s.LinksAlike rs rs') {more more' : List Relationship}
    (hmore : List.Forall₂ Relationship.Alike more more') : s.LinksAlike (rs ++ more) (rs' ++ more') := by
  induction hmore generalizing rs rs' with
  | nil => simpa using h
  | @cons r r' more more' hr _ ih =>
    obtain ⟨σs, hσ, hσ', hj⟩ := h.alikeOn.concat hr
    have hnext : s.LinksAlike (rs ++ [r]) (rs' ++ [r']) := ⟨hj, by rw [hσ, hσ', h.sides]⟩
    simpa using ih hnext

lemma foreignKeys (h : s.LinksAlike rs rs') :
    (s.relating rs').resolve.foreignKeys = (s.relating rs).resolve.foreignKeys := by
  have hseen : (s.draftAfter rs').foreignKeys.map (·.seen) = (s.draftAfter rs).foreignKeys.map (·.seen) := by
    rw [Draft.seen_foreignKeys, Draft.seen_foreignKeys, h.sides]
  calc (s.draftAfter rs').foreignKeys
    _ = _ := foreignKeys_draftAfter_eq rs'
    _ = _ := congrArg (List.mapIdx _) hseen
    _ = (s.draftAfter rs).foreignKeys := (foreignKeys_draftAfter_eq rs).symm

lemma associations (h : s.LinksAlike rs rs') :
    Sequelize.associations (s.relating rs').resolve = Sequelize.associations (s.relating rs).resolve := by
  rw [Sequelize.associations_eq, Sequelize.associations_eq]
  exact congrArg (List.flatMap _) h.sides

end LinksAlike

def reversing (s : Schema) (positions : Finset Nat) : Schema :=
  s.relating (s.relationships.mapIdx fun k r => if k ∈ positions then r.reversed else r)

lemma linksAlike_reversing {positions : Finset Nat}
    (h : ∀ k ∈ positions, ∃ r, s.relationships[k]? = some r ∧ r.Directed) :
    s.LinksAlike s.relationships (s.reversing positions).relationships := by
  have hall : List.Forall₂ Relationship.Alike s.relationships (s.reversing positions).relationships := by
    rw [List.forall₂_iff_get]
    refine ⟨(List.length_mapIdx).symm, ?_⟩
    intro k hk hk'
    have hget : (s.reversing positions).relationships.get ⟨k, hk'⟩ =
        if k ∈ positions then (s.relationships.get ⟨k, hk⟩).reversed else s.relationships.get ⟨k, hk⟩ :=
      List.getElem_mapIdx
    rw [hget]
    by_cases hmem : k ∈ positions
    · obtain ⟨r, hr, hdirected⟩ := h k hmem
      obtain ⟨_, rfl⟩ := List.getElem?_eq_some_iff.mp hr
      rw [if_pos hmem]
      exact .inr ⟨hdirected, rfl⟩
    · rw [if_neg hmem]
      exact .inl rfl
  have hstart : s.LinksAlike [] [] := ⟨rfl, rfl⟩
  exact hstart.append hall

/-- Which way the arrows from one to many are drawn makes no difference to the keys, to the junctions and to the code
in most formats. -/
theorem generate_reversing (s : Schema) (positions : Finset Nat)
    (h : ∀ k ∈ positions, ∃ r, s.relationships[k]? = some r ∧ r.Directed) :
    (∀ f ∈ [Format.sql, .sequelize, .typeOrm, .sqlAlchemy, .mongoose, .typeScript],
        s.generate f = (s.reversing positions).generate f) ∧
      s.resolve.foreignKeys = (s.reversing positions).resolve.foreignKeys ∧
      s.resolve.junctions = (s.reversing positions).resolve.junctions ∧
      s.resolve.dependencyOrder = (s.reversing positions).resolve.dependencyOrder := by
  have halike := linksAlike_reversing h
  have hlook := halike.alikeOn.looksLike
  refine ⟨?_, halike.foreignKeys.symm, halike.junctions.symm, ?_⟩
  · intro f hf
    apply s.generate_relating s.relationships
    cases f with
    | sequelize => exact Sequelize.code_looksLike hlook (congrArg _ halike.associations)
    | sql => exact Sql.code_looksLike hlook
    | typeOrm => exact TypeOrm.code_looksLike hlook
    | sqlAlchemy => exact SqlAlchemy.code_looksLike hlook
    | mongoose => exact Mongoose.code_looksLike hlook
    | typeScript => exact TypeScript.code_looksLike hlook
    | prisma => simp at hf
    | dbml => simp at hf
  · exact hlook.dependencyOrder_eq.symm

def managedTeams : Schema where
  tables := [
    { id := "a", name := "User", columns := some [{ name := "id", type := .uuid, primary := true }] },
    { id := "b", name := "Team", columns := some [{ name := "id", type := .uuid, primary := true }] }]
  relationships := [
    { source := "a", target := "b", targetKey := "id", declared := some .manyToOne },
    { source := "a", target := "b", declared := some .manyToMany },
    { source := "b", target := "a", sourceKey := "id" },
    { source := "a", target := "a" }]

theorem generate_reversing_managedTeams :
    (∀ k ∈ ({0, 3} : Finset Nat), ∃ r, managedTeams.relationships[k]? = some r ∧ r.Directed) ∧
      (managedTeams.reversing {0, 3}).relationships = [
        { source := "b", target := "a", sourceKey := "id", declared := some .oneToMany },
        { source := "a", target := "b", declared := some .manyToMany },
        { source := "b", target := "a", sourceKey := "id" },
        { source := "a", target := "a", declared := some .manyToOne }] ∧
      (∀ f ∈ [Format.sql, .sequelize, .typeOrm, .sqlAlchemy, .mongoose, .typeScript],
        managedTeams.generate f = (managedTeams.reversing {0, 3}).generate f) ∧
      managedTeams.resolve.foreignKeys = (managedTeams.reversing {0, 3}).resolve.foreignKeys ∧
      managedTeams.resolve.junctions = (managedTeams.reversing {0, 3}).resolve.junctions ∧
      managedTeams.resolve.dependencyOrder = (managedTeams.reversing {0, 3}).resolve.dependencyOrder := by
  have hdirected : ∀ k ∈ ({0, 3} : Finset Nat), ∃ r, managedTeams.relationships[k]? = some r ∧ r.Directed := by
    intro k hk
    simp only [Finset.mem_insert, Finset.mem_singleton] at hk
    rcases hk with rfl | rfl
    · exact ⟨_, rfl, .inr rfl⟩
    · exact ⟨_, rfl, .inl rfl⟩
  exact ⟨hdirected, by decide, generate_reversing managedTeams {0, 3} hdirected⟩

end Schema

end SchemaCode
