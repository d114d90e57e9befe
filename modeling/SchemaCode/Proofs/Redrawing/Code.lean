import SchemaCode.Proofs.Redrawing.Statements

namespace SchemaCode

namespace TypeScript

variable {ρ : Redrawing} {r r' : Resolution}

lemma code_looksLike (h : r.LooksLike ρ r') : code r' = code r := by
  have hinterface : ∀ e : Entity,
      (Interface.mk (e.redraw ρ).name (r'.columnsOf (e.redraw ρ)) (r'.endsOf (ρ.index e.index))).render =
        (Interface.mk e.name (r.columnsOf e) (r.endsOf e.index)).render := by
    intro e
    delta Interface.render
    rw [h.map_columnsOf (fun _ => rfl), h.map_endsOf (fun _ _ => rfl), h.isEmpty_endsOf, Entity.name_redraw]
  rw [code, code, interfaces, interfaces, List.map_map, List.map_map]
  exact congrArg String.join (h.map_entities hinterface)

end TypeScript

namespace TypeOrm

variable {ρ : Redrawing} {r r' : Resolution}

lemma relationMember_seen (ρ : Redrawing) (e : End) :
    (relationMember (e.redraw ρ).seen).render = (relationMember e).render ∧
      (relationMember (e.redraw ρ).seen).decorators.map (·.name) = (relationMember e).decorators.map (·.name) := by
  rcases e with ⟨_, _, kind, _, _, _, _, cardinality, _, ⟨key⟩ | ⟨key⟩ | ⟨j, atSource⟩⟩
  · cases kind <;> cases cardinality <;> exact ⟨rfl, rfl⟩
  · cases kind <;> cases cardinality <;> exact ⟨rfl, rfl⟩
  · cases kind <;> cases cardinality <;> cases atSource <;> exact ⟨rfl, rfl⟩

lemma columns_entityClass (h : r.LooksLike ρ r') (e : Entity) :
    (entityClass r' (e.redraw ρ)).columns = (entityClass r e).columns := h.map_columnsOf (fun _ => rfl) e

lemma map_relations {β : Type} {f : Member → β} (h : r.LooksLike ρ r')
    (hf : ∀ (ρ : Redrawing) (e : End), f (relationMember (e.redraw ρ).seen) = f (relationMember e)) (e : Entity) :
    (entityClass r' (e.redraw ρ)).relations.map f = (entityClass r e).relations.map f := by
  have hends := h.map_endsOf (f := fun x => f (relationMember x)) hf e.index
  rw [entityClass, entityClass, List.map_append, List.map_append, List.map_map, List.map_map, List.map_map,
    List.map_map, Entity.index_redraw, h.addedColumnsOf]
  exact congrArg (_ ++ ·) hends

lemma render_entityClass (h : r.LooksLike ρ r') (e : Entity) :
    (entityClass r' (e.redraw ρ)).render = (entityClass r e).render := by
  have hmembers : (entityClass r' (e.redraw ρ)).members = (entityClass r e).members := by
    delta EntityClass.members
    rw [columns_entityClass h, map_relations h fun ρ e => (relationMember_seen ρ e).1]
  delta EntityClass.render
  rw [hmembers]
  rfl

lemma names_entityClass (h : r.LooksLike ρ r') (e : Entity) :
    (entityClass r' (e.redraw ρ)).decorators.map (·.name) = (entityClass r e).decorators.map (·.name) := by
  have hnames : ∀ ms : List Member,
      (ms.flatMap (·.decorators)).map (·.name) = (ms.map fun m => m.decorators.map (·.name)).flatten := by
    intro ms
    rw [List.map_flatMap, List.flatMap_def]
  have hrelations := map_relations h (f := fun m => m.decorators.map (·.name))
    (fun ρ e => (relationMember_seen ρ e).2) e
  rw [EntityClass.decorators, EntityClass.decorators, List.map_cons, List.map_cons, hnames, hnames, List.map_append,
    List.map_append, columns_entityClass h, hrelations]
  rfl

lemma code_looksLike (h : r.LooksLike ρ r') : code r' = code r := by
  have himports : imports (classes r') = imports (classes r) := by
    simp only [imports, classes, h.entities, List.flatMap_map, names_entityClass h]
  rw [code, code, himports, classes, classes, List.map_map, List.map_map]
  exact congrArg (_ ++ String.join ·) (h.map_entities (render_entityClass h))

end TypeOrm

namespace SqlAlchemy

variable {ρ : Redrawing} {r r' : Resolution}

lemma relationshipLine_seen (ρ : Redrawing) (e : End) : relationshipLine (e.redraw ρ).seen = relationshipLine e := by
  have hself : ((e.redraw ρ).seen.entity.index == (e.redraw ρ).seen.related.index) =
      (e.entity.index == e.related.index) := ρ.injective.beq_eq
  have hstorage : storageArguments (e.redraw ρ).seen = storageArguments e := by
    rw [storageArguments, storageArguments, hself]
    rcases e with ⟨_, _, _, entity, related, _, _, cardinality, _, ⟨key⟩ | ⟨key⟩ | ⟨j, atSource⟩⟩
    · rfl
    · cases cardinality <;> rfl
    · cases atSource <;> rfl
  rw [relationshipLine, relationshipLine, hstorage]
  rfl

lemma map_columns {β : Type} {f : MappedColumn → β} (h : r.LooksLike ρ r')
    (hf : ∀ (ρ : Redrawing) (c : Column) (key : Option ForeignKey),
      f ⟨c.seen, key.map fun k => (k.redraw ρ).seen⟩ = f ⟨c, key⟩) (e : Entity) :
    (columns r' (e.redraw ρ)).map f = (columns r e).map f := by
  rw [columns_eq, columns_eq, List.map_map, List.map_map]
  exact h.map_keyedColumns hf e

lemma isEmpty_relationships (h : r.LooksLike ρ r') (e : Entity) :
    (mappedClass r' (e.redraw ρ)).relationships.isEmpty = (mappedClass r e).relationships.isEmpty :=
  h.isEmpty_endsOf e.index

lemma render_mappedClass (h : r.LooksLike ρ r') (e : Entity) :
    (mappedClass r' (e.redraw ρ)).render = (mappedClass r e).render := by
  have hcolumns : (mappedClass r' (e.redraw ρ)).columns.map (·.render) = (mappedClass r e).columns.map (·.render) :=
    map_columns h (fun ρ c key => by cases key <;> rfl) e
  have hlines : (mappedClass r' (e.redraw ρ)).relationships.map relationshipLine =
      (mappedClass r e).relationships.map relationshipLine := h.map_endsOf relationshipLine_seen e.index
  delta MappedClass.render
  rw [hcolumns, hlines, isEmpty_relationships h]
  rfl

lemma code_looksLike (h : r.LooksLike ρ r') : code r' = code r := by
  have hclasses : ∀ r : Resolution, (moduleOf r).classes = r.entities.map (mappedClass r) := fun _ => rfl
  have htable : ∀ j : Junction, associationTable (j.redraw ρ) = associationTable j := fun _ => rfl
  have htableNames : ∀ j : Junction, tableNames (j.redraw ρ) = tableNames j := fun _ => rfl
  have hnames : ∀ e : Entity, (mappedClass r' (e.redraw ρ)).columns.flatMap (·.names) =
      (mappedClass r e).columns.flatMap (·.names) := by
    intro e
    rw [List.flatMap_def, List.flatMap_def]
    exact congrArg List.flatten (map_columns h (fun ρ c key => by cases key <;> rfl) e)
  have huuid : ∀ e : Entity, (mappedClass r' (e.redraw ρ)).columns.any (·.makesUuid) =
      (mappedClass r e).columns.any (·.makesUuid) := by
    intro e
    have hkeys := congrArg (List.any · id) (map_columns h (f := (·.makesUuid)) (fun _ _ _ => rfl) e)
    rwa [List.any_map, List.any_map] at hkeys
  have htables : (moduleOf r').tables = (moduleOf r).tables.map (·.redraw ρ) := h.junctions
  simp only [code, Module.render, Module.imports, Module.usesUuid, Module.usesRelationships, hclasses, htables,
    h.entities, List.map_map, List.flatMap_map, List.any_map, Function.comp_def, htable, htableNames, hnames, huuid,
    isEmpty_relationships h, render_mappedClass h]

end SqlAlchemy

namespace Mongoose

variable {ρ : Redrawing} {r r' : Resolution}

lemma arrayField?_seen (ρ : Redrawing) (e : End) : arrayField? (e.redraw ρ).seen = arrayField? e := by
  rcases e with ⟨_, _, _, _, _, _, _, _, _, ⟨key⟩ | ⟨key⟩ | ⟨j, _ | _⟩⟩ <;> rfl

lemma virtual?_seen (ρ : Redrawing) (e : End) : virtual? (e.redraw ρ).seen = virtual? e := by
  rcases e with ⟨_, _, _, _, _, _, _, _, _, ⟨key⟩ | ⟨key⟩ | ⟨j, _ | _⟩⟩ <;> rfl

lemma map_fields {β : Type} {f : Field → β} (h : r.LooksLike ρ r')
    (hf : ∀ (ρ : Redrawing) (c : Column) (key : Option ForeignKey),
      f (.column c.seen (key.map fun k => (k.redraw ρ).seen)) = f (.column c key)) (e : Entity) :
    (model r' (e.redraw ρ)).fields.map f = (model r e).fields.map f := by
  have hcolumns : (columnFields r' (e.redraw ρ)).map f = (columnFields r e).map f := by
    rw [columnFields_eq, columnFields_eq, List.map_map, List.map_map]
    exact h.map_keyedColumns hf e
  simp only [model, List.map_append, hcolumns, Entity.index_redraw, h.filterMap_endsOf arrayField?_seen]

lemma render_model (h : r.LooksLike ρ r') (e : Entity) : (model r' (e.redraw ρ)).render = (model r e).render := by
  have hfields := map_fields h (f := (·.render)) (fun ρ c key => by cases key <;> rfl) e
  have hempty : (model r' (e.redraw ρ)).fields.isEmpty = (model r e).fields.isEmpty := by
    simpa using congrArg List.isEmpty hfields
  have hvirtuals : (model r' (e.redraw ρ)).virtuals = (model r e).virtuals := h.filterMap_endsOf virtual?_seen e.index
  delta Model.render
  rw [hfields, hempty, hvirtuals]
  rfl

lemma code_looksLike (h : r.LooksLike ρ r') : code r' = code r := by
  have huuid : usesUuid (models r') = usesUuid (models r) := by
    have hfields : ∀ e : Entity, (model r' (e.redraw ρ)).fields.any (·.makesUuid) =
        (model r e).fields.any (·.makesUuid) := by
      intro e
      have hfields := congrArg (List.any · id) (map_fields h (f := (·.makesUuid)) (fun _ _ _ => rfl) e)
      rwa [List.any_map, List.any_map] at hfields
    simp only [usesUuid, models, h.entities, List.any_map, Function.comp_def, hfields]
  have hrender : (models r').map (·.render) = (models r).map (·.render) := by
    rw [models, models, List.map_map, List.map_map]
    exact h.map_entities (render_model h)
  have hnames : (models r').map (·.name) = (models r).map (·.name) := by
    rw [models, models, List.map_map, List.map_map]
    exact h.map_entities fun _ => rfl
  delta code
  simp only [huuid, hrender, hnames]

end Mongoose

namespace Sequelize

variable {ρ : Redrawing} {r r' : Resolution}

lemma render_model (h : r.LooksLike ρ r') (e : Entity) :
    (Model.mk (e.redraw ρ) (attributes r' (e.redraw ρ))).render = (Model.mk e (attributes r e)).render := by
  have hattributes : (attributes r' (e.redraw ρ)).map (·.render) = (attributes r e).map (·.render) := by
    rw [attributes_eq, attributes_eq, List.map_map, List.map_map]
    exact h.map_keyedColumns (fun ρ c key => by cases key <;> rfl) e
  have hempty : (attributes r' (e.redraw ρ)).isEmpty = (attributes r e).isEmpty := by
    simpa using congrArg List.isEmpty hattributes
  simp only [Model.render, hattributes, hempty, Entity.name_redraw, Entity.lowerName_redraw]

lemma code_looksLike (h : r.LooksLike ρ r')
    (hcalls : (associations r').map (·.render) = (associations r).map (·.render)) : code r' = code r := by
  have hmodels : (models r').map (·.render) = (models r).map (·.render) := by
    rw [models, models, List.map_map, List.map_map]
    exact h.map_entities (render_model h)
  have hempty : (associations r').isEmpty = (associations r).isEmpty := by
    simpa using congrArg List.isEmpty hcalls
  have hnames : r'.entities.map (·.name) = r.entities.map (·.name) := h.map_entities fun _ => rfl
  simp only [code, hmodels, hcalls, hempty, hnames]

lemma code_redraw (ρ : Redrawing) (r : Resolution) : code (r.redraw ρ) = code r := by
  have hcalls : ∀ l : Link, (associationsOf (l.redraw ρ)).map (·.render) = (associationsOf l).map (·.render) := by
    rintro ⟨kind, name, source, target, sourceField, targetField, ⟨key, atSource⟩ | ⟨j, forward⟩⟩
    · cases atSource <;> cases kind <;> rfl
    · cases forward <;> rfl
  apply code_looksLike (r.looksLike_redraw ρ)
  simp only [associations, Resolution.redraw, List.flatMap_map, List.map_flatMap, hcalls]

end Sequelize

namespace Prisma

lemma endLines_redraw (ρ : Redrawing) (e : End) : endLines (e.redraw ρ) = endLines e := by
  rcases e with ⟨_, _, _, _, _, _, _, cardinality, _, role⟩
  cases role <;> cases cardinality <;> rfl

lemma render_model (ρ : Redrawing) (r : Resolution) (e : Entity) :
    (model (r.redraw ρ) (e.redraw ρ)).render = (model r e).render := by
  have hcolumns : (model (r.redraw ρ) (e.redraw ρ)).columns.map renderColumn = (model r e).columns.map renderColumn :=
    (r.looksLike_redraw ρ).map_columnsOf (fun _ => rfl) e
  have hrelations : (model (r.redraw ρ) (e.redraw ρ)).relations = (model r e).relations := by
    rw [model, model, Entity.index_redraw, Resolution.endsOf_redraw, List.flatMap_map]
    simp only [endLines_redraw]
  delta Model.render
  rw [hcolumns, hrelations]
  rfl

lemma code_redraw (ρ : Redrawing) (r : Resolution) : code (r.redraw ρ) = code r := by
  rw [code, code, models, models, List.map_map, List.map_map]
  exact congrArg String.join ((r.looksLike_redraw ρ).map_entities (render_model ρ r))

end Prisma

namespace Dbml

lemma render_block (ρ : Redrawing) (r : Resolution) (e : Entity) :
    (block (r.redraw ρ) (e.redraw ρ)).render = (block r e).render := by
  have hlook := r.looksLike_redraw ρ
  have hdeclared := hlook.map_columnsOf (f := fun c => (TableColumn.mk c false).render) (fun _ => rfl) e
  have hcolumns : (block (r.redraw ρ) (e.redraw ρ)).columns.map (·.render) = (block r e).columns.map (·.render) := by
    rw [block, block, List.map_append, List.map_append, List.map_map, List.map_map, List.map_map, List.map_map,
      Entity.index_redraw, hlook.addedColumnsOf]
    exact congrArg (· ++ _) hdeclared
  rw [TableBlock.render, hcolumns]
  rfl

lemma code_redraw (ρ : Redrawing) (r : Resolution) : code (r.redraw ρ) = code r := by
  have hrefs : ∀ l : Link, (refOf (l.redraw ρ)).render = (refOf l).render := by
    rintro ⟨kind, name, source, target, sourceField, targetField, ⟨key, atSource⟩ | ⟨j, forward⟩⟩
    · cases kind <;> rfl
    · cases forward <;> rfl
  have hlines : refLines (r.redraw ρ) = refLines r := by
    simp only [refLines, Resolution.redraw, List.map_map, Function.comp_def, hrefs]
  rw [code, code, hlines, blocks, blocks, List.map_map, List.map_map]
  exact congrArg (String.join · ++ _) ((r.looksLike_redraw ρ).map_entities (render_block ρ r))

end Dbml

namespace Format

/-- The formats that write down neither what relations are called nor the links of the schema in one list. -/
def tablewise : List Format := [.sql, .typeOrm, .sqlAlchemy, .mongoose, .typeScript]

lemma code_looksLike {ρ : Redrawing} {r r' : Resolution} (h : r.LooksLike ρ r') {f : Format} (hf : f ∈ tablewise) :
    f.code r' = f.code r := by
  simp only [tablewise, List.mem_cons, List.not_mem_nil, or_false] at hf
  rcases hf with rfl | rfl | rfl | rfl | rfl
  · exact Sql.code_looksLike h
  · exact TypeOrm.code_looksLike h
  · exact SqlAlchemy.code_looksLike h
  · exact Mongoose.code_looksLike h
  · exact TypeScript.code_looksLike h

lemma code_redraw (ρ : Redrawing) (f : Format) (r : Resolution) : f.code (r.redraw ρ) = f.code r := by
  have hlook := r.looksLike_redraw ρ
  cases f with
  | prisma => exact Prisma.code_redraw ρ r
  | sql => exact Sql.code_looksLike hlook
  | sequelize => exact Sequelize.code_redraw ρ r
  | typeOrm => exact TypeOrm.code_looksLike hlook
  | sqlAlchemy => exact SqlAlchemy.code_looksLike hlook
  | mongoose => exact Mongoose.code_looksLike hlook
  | dbml => exact Dbml.code_redraw ρ r
  | typeScript => exact TypeScript.code_looksLike hlook

lemma code_renumber {ι : Nat → Nat} (hι : Function.Injective ι) (f : Format) (r : Resolution) :
    f.code (r.redraw (.moving ι hι)) = f.code r := f.code_redraw _ r

end Format

lemma Schema.generate_congr {s s' : Schema} {f : Format} (hname : s'.name = s.name)
    (htables : s'.resolve.hasTables = s.resolve.hasTables) (hcode : f.code s'.resolve = f.code s.resolve) :
    s'.generate f = s.generate f := by
  rw [generate, generate, Format.body, Format.body, hname, htables, hcode]

end SchemaCode
