import Mathlib.Data.List.Forall2
import SchemaCode.Proofs.Code.Layout

namespace SchemaCode

inductive Part where
  | column (column : Column) (key? : Option ForeignKey)
  | relation (x : End)
  | clause (constraint : Sql.Constraint)
  | gap

namespace Part

def column? : Part → Option (Column × Option ForeignKey)
  | column c key? => some (c, key?)
  | relation _ => none
  | clause _ => none
  | gap => none

def relation? : Part → Option End
  | column _ _ => none
  | relation x => some x
  | clause _ => none
  | gap => none

lemma eq_column {p : Part} {c : Column} {key? : Option ForeignKey} (h : p.column? = some (c, key?)) :
    p = .column c key? := by
  cases p with
  | column c' key?' =>
    obtain ⟨rfl, rfl⟩ := Prod.mk.inj (Option.some.inj h)
    rfl
  | relation x => exact absurd h.symm (Option.some_ne_none _)
  | clause c => exact absurd h.symm (Option.some_ne_none _)
  | gap => exact absurd h.symm (Option.some_ne_none _)

end Part

def apartParts (parts : List Part) : List Part := if parts.isEmpty then [] else .gap :: parts

section Lines

variable {α β γ : Type} {R : β → γ → Prop}

lemma forall₂_map (xs : List α) {f : α → β} {g : α → γ} (h : ∀ x, R (f x) (g x)) :
    List.Forall₂ R (xs.map f) (xs.map g) := by
  rw [List.forall₂_map_left_iff, List.forall₂_map_right_iff, List.forall₂_same]
  exact fun x _ => h x

lemma forall₂_apart {R : Part → String → Prop} {gap : String} {parts : List Part} {lines : List String}
    (hgap : R .gap gap) (h : List.Forall₂ R parts lines) : List.Forall₂ R (apartParts parts) (apart gap lines) := by
  cases h with
  | nil => exact .nil
  | cons h hs => exact .cons hgap (.cons h hs)

end Lines

def Role.ownedKey? : Role → Option ForeignKey
  | .owner key => some key
  | .inverse _ => none
  | .junction _ _ => none

namespace Resolution

variable {r : Resolution} {e : Entity}

def declaredParts (r : Resolution) (e : Entity) : List Part :=
  (r.columnsOf e).map fun c => .column c (r.foreignKeyOn? e.index c.name)

def addedParts (r : Resolution) (e : Entity) : List Part :=
  (r.addedKeysOf e.index).map fun k => .column k.toColumn (some k)

def relationParts (r : Resolution) (e : Entity) : List Part := (r.endsOf e.index).map .relation

end Resolution

namespace Prisma

def mark (x : End) : String :=
  match x.role, x.cardinality with
  | .owner _, _ => ""
  | _, .many => "[]"
  | _, .one => "?"

def joined : Role → String
  | .owner k => ", fields: [" ++ k.column ++ "], references: [" ++ k.referencedColumn ++ "]"
  | _ => ""

inductive Spells : Part → String → Prop
  | column (c : Column) (key? : Option ForeignKey) (attributes : List String)
      (h : attributes ⊆ ["@id", "@id @default(uuid())", "@id @default(autoincrement())", "@unique", "@db.Uuid",
        "@db.Text", "@db.Date"]) :
      Spells (.column c key?) ("  " ++ " ".intercalate (c.name :: typeName c.type :: attributes) ++ "\n")
  | gap : Spells .gap "\n  // Relationships\n"
  | relation (x : End) : Spells (.relation x) ("  " ++ x.field ++ " " ++ x.related.name ++ mark x ++
      " @relation(\"" ++ x.relation ++ "\"" ++ joined x.role ++ ")\n")

def endParts (x : End) : List Part :=
  .relation x :: (x.role.ownedKey?.toList.filter (·.synthesized)).map fun k => .column k.toColumn (some k)

def parts (r : Resolution) (e : Entity) : List Part :=
  r.declaredParts e ++ apartParts ((r.endsOf e.index).flatMap endParts)

lemma spells_column (c : Column) (key? : Option ForeignKey) : Spells (.column c key?) (renderColumn c) := by
  refine .column c key? (columnAttributes c) ?_
  rw [columnAttributes]
  refine List.append_subset.mpr ⟨List.append_subset.mpr ⟨?_, ?_⟩, ?_⟩
  · cases c.primary with
    | false => simp
    | true => cases c.type <;> simp
  · cases c.unique <;> simp
  · cases c.type <;> simp [nativeType?]

lemma spells_relation (x : End) : Spells (.relation x) (relationField x).render := by
  have htext : (relationField x).render = "  " ++ x.field ++ " " ++ x.related.name ++ mark x ++
      " @relation(\"" ++ x.relation ++ "\"" ++ joined x.role ++ ")\n" := by
    delta RelationField.render mark
    cases hr : x.role <;> cases hc : x.cardinality <;> simp only [relationField, hr, hc] <;> rfl
  exact htext ▸ .relation x

lemma spells_end (x : End) : List.Forall₂ Spells (endParts x) ((endLines x).map (·.render)) := by
  have hadded : ∀ k : ForeignKey, List.Forall₂ Spells
      (([k].filter (·.synthesized)).map fun k => .column k.toColumn (some k))
      ((if k.synthesized then [Line.column k.toColumn] else []).map (·.render)) := by
    intro k
    cases hs : k.synthesized with
    | false => simp [hs]
    | true =>
      rw [List.filter_cons_of_pos hs, if_pos rfl]
      exact .cons (spells_column k.toColumn (some k)) .nil
  refine .cons (spells_relation x) ?_
  cases x.role with
  | owner k => exact hadded k
  | inverse k => exact .nil
  | junction j atSource => exact .nil

lemma spells_lines (r : Resolution) (e : Entity) : List.Forall₂ Spells (parts r e) (lines r e) := by
  refine List.rel_append (forall₂_map _ fun c => spells_column c _) (forall₂_apart .gap ?_)
  rw [List.map_flatMap]
  exact List.rel_flatMap (List.forall₂_same.mpr fun _ _ => rfl) fun x _ h => h ▸ spells_end x

end Prisma

namespace Sql

inductive Spells : Part → String → Prop
  | column (c : Column) (key? : Option ForeignKey) (identity unique notNull : String)
      (hidentity : identity ∈ ["", " PRIMARY KEY", " PRIMARY KEY DEFAULT gen_random_uuid()",
        " PRIMARY KEY GENERATED BY DEFAULT AS IDENTITY"])
      (hunique : unique ∈ ["", " UNIQUE"]) (hnotNull : notNull ∈ ["", " NOT NULL"]) :
      Spells (.column c key?) ("  " ++ c.name ++ " " ++ typeName c.type ++ identity ++ unique ++ notNull)
  | clause (c : Constraint) : Spells (.clause c) ("  FOREIGN KEY (" ++ c.column ++ ") REFERENCES " ++
      c.referenced.lowerName ++ "(" ++ c.referencedColumn ++ ")")

lemma spells_column (d : ColumnDefinition) (key? : Option ForeignKey) : Spells (.column d.column key?) d.render := by
  refine .column d.column key? _ _ _ ?_ ?_ ?_
  · cases d.column.primary with
    | false => simp
    | true => cases d.column.type <;> simp
  · cases d.column.unique <;> simp
  · cases d.notNull <;> simp

lemma spells_clause (c : Constraint) : Spells (.clause c) ("  " ++ c.render) := by
  have hkey : "  FOREIGN KEY (" = "  " ++ "FOREIGN KEY (" := rfl
  have hclause := Spells.clause c
  rw [hkey] at hclause
  delta Constraint.render foreignKeyClause
  simpa only [String.append_assoc] using hclause

def parts (r : Resolution) (e : Entity) (inside : List Constraint) : List Part :=
  r.declaredParts e ++ r.addedParts e ++ inside.map .clause

lemma spells_lines (r : Resolution) (e : Entity) (inside : List Constraint) : List.Forall₂ Spells
    (parts r e inside) ((columnsOf r e).map (·.render) ++ inside.map ("  " ++ ·.render)) := by
  rw [columnsOf, Resolution.addedColumnsOf, List.map_append, List.map_map, List.map_map, List.map_map]
  refine List.rel_append (List.rel_append ?_ ?_) (forall₂_map inside spells_clause)
  · exact forall₂_map _ fun c => spells_column ⟨c, false⟩ _
  · exact forall₂_map _ fun k => spells_column ⟨k.toColumn, true⟩ (some k)

end Sql

namespace Sequelize

inductive Spells : Part → String → Prop
  | column (c : Column) (key? : Option ForeignKey) (options : List String)
      (h : options ⊆ ["defaultValue: DataTypes.UUIDV4", "autoIncrement: true", "primaryKey: true", "unique: true"]) :
      Spells (.column c key?) ("  " ++ c.name ++ ": \x7b\n    " ++ ",\n    ".intercalate
        (("type: " ++ typeName c.type) :: options ++ key?.toList.flatMap fun k =>
          ["allowNull: false", "references: \x7b model: '" ++ k.referenced.lowerName ++ "', key: '" ++
            k.referencedColumn ++ "' \x7d"]) ++ "\n  \x7d")

def parts (r : Resolution) (e : Entity) : List Part := r.declaredParts e ++ r.addedParts e

lemma spells_attribute (a : Attribute) : Spells (.column a.column a.key) a.render := by
  obtain ⟨options, hoptions, htext⟩ : ∃ options, options ⊆ ["defaultValue: DataTypes.UUIDV4", "autoIncrement: true",
      "primaryKey: true", "unique: true"] ∧ a.options = ("type: " ++ typeName a.column.type) :: options ++
        a.key.toList.flatMap fun k => ["allowNull: false", "references: \x7b model: '" ++ k.referenced.lowerName ++
          "', key: '" ++ k.referencedColumn ++ "' \x7d"] := by
    rw [Attribute.options, List.cons_append]
    refine ⟨_, List.append_subset.mpr ⟨?_, ?_⟩, congrArg (HAppend.hAppend _) ?_⟩
    · cases a.column.primary with
      | false => simp
      | true => cases a.column.type <;> simp
    · cases a.column.unique <;> simp
    · cases a.key <;> rfl
  rw [Attribute.render, htext]
  exact .column a.column a.key options hoptions

lemma spells_lines (r : Resolution) (e : Entity) : List.Forall₂ Spells (parts r e) (lines r e) := by
  rw [lines, attributes, List.map_append, List.map_map, List.map_map]
  exact List.rel_append (forall₂_map _ fun c => spells_attribute ⟨c, _⟩)
    (forall₂_map _ fun k => spells_attribute ⟨k.toColumn, some k⟩)

end Sequelize

namespace TypeOrm

def joined : Role → String
  | .owner k =>
    "  @JoinColumn(\x7b name: \"" ++ k.column ++ "\", referencedColumnName: \"" ++ k.referencedColumn ++ "\" \x7d)\n"
  | .junction j true =>
    "  @JoinTable(\x7b name: \"" ++ j.name ++ "\", joinColumn: \x7b name: \"" ++ j.source.column ++
      "\", referencedColumnName: \"" ++ j.source.referencedColumn ++ "\" \x7d, inverseJoinColumn: \x7b name: \"" ++
      j.target.column ++ "\", referencedColumnName: \"" ++ j.target.referencedColumn ++ "\" \x7d \x7d)\n"
  | _ => ""

inductive SpellsMember : Part → String → Prop
  | column (c : Column) (key? : Option ForeignKey) (decorator arguments index : String)
      (hdecorator : decorator ∈ ["Column", "PrimaryColumn", "PrimaryGeneratedColumn"])
      (harguments : arguments ∈ ["", "\"uuid\"", "\x7b " ++ columnOptions c.type ++ " \x7d",
        "\x7b " ++ columnOptions c.type ++ ", unique: true \x7d"])
      (hindex : index ∈ ["", "  @Index(\x7b unique: true \x7d)\n"]) :
      SpellsMember (.column c key?) ("  @" ++ decorator ++ "(" ++ arguments ++ ")\n" ++ index ++ "  " ++ c.name ++
        ": " ++ TypeScript.typeName c.type ++ ";")
  | relation (x : End) : SpellsMember (.relation x) ("  @" ++ (relationDecorator x.kind x.cardinality).name ++
      "(() => " ++ x.related.name ++ ", (" ++ Text.lowerFirst x.related.name ++ ") => " ++
      Text.lowerFirst x.related.name ++ "." ++ x.inverseField ++ ")\n" ++ joined x.role ++ "  " ++ x.field ++
      ": " ++ TypeScript.relatedType x ++ ";")

inductive Spells : Part → String → Prop
  | plain {p : Part} {line : String} (h : SpellsMember p line) : Spells p line
  | remarked {p : Part} {line : String} (h : SpellsMember p line) : Spells p ("  // Relationships\n" ++ line)

def parts (r : Resolution) (e : Entity) : List Part := r.declaredParts e ++ (r.addedParts e ++ r.relationParts e)

lemma intercalate_concat (gap : String) (lines : List String) (last : String) :
    gap.intercalate (lines ++ [last]) = String.join (lines.map (· ++ gap)) ++ last := by
  induction lines with
  | nil => simp
  | cons line lines ih =>
    have hrest : lines ++ [last] ≠ [] := List.append_ne_nil_of_right_ne_nil _ (List.cons_ne_nil _ _)
    rw [List.cons_append, String.intercalate_cons_of_ne_nil hrest, ih, List.map_cons, String.join_cons]
    exact String.append_assoc.symm

lemma Member.render_eq (m : Member) : m.render =
    String.join (m.decorators.map fun d => "  @" ++ d.name ++ "(" ++ d.arguments ++ ")\n") ++ "  " ++ m.name ++ ": " ++
      m.type ++ ";" := by
  have hline : ∀ d : Decorator, "  " ++ d.render ++ "\n" = "  @" ++ d.name ++ "(" ++ d.arguments ++ ")\n" := by
    intro d
    have hat : "  @" = "  " ++ "@" := rfl
    have hend : ")\n" = ")" ++ "\n" := rfl
    rw [Decorator.render, hat, hend]
    simp only [String.append_assoc]
  rw [Member.render, List.map_append, List.map_singleton, intercalate_concat, List.map_map, List.map_map]
  simp only [Function.comp_def, hline]
  simp only [String.append_assoc]

lemma spells_decorated (c : Column) (key? : Option ForeignKey) (d : Decorator) {ds : List Decorator}
    (hname : d.name ∈ ["Column", "PrimaryColumn", "PrimaryGeneratedColumn"])
    (harguments : d.arguments ∈ ["", "\"uuid\"", "\x7b " ++ columnOptions c.type ++ " \x7d",
      "\x7b " ++ columnOptions c.type ++ ", unique: true \x7d"])
    (hds : ds = [] ∨ ds = [.uniqueIndex]) :
    SpellsMember (.column c key?) (Member.mk (d :: ds) c.name (TypeScript.typeName c.type)).render := by
  rw [Member.render_eq, List.map_cons, String.join_cons]
  rcases hds with rfl | rfl
  · exact .column c key? d.name d.arguments "" hname harguments List.mem_cons_self
  · exact .column c key? d.name d.arguments _ hname harguments (List.mem_cons_of_mem _ List.mem_cons_self)

lemma spells_column (c : Column) (key? : Option ForeignKey) :
    SpellsMember (.column c key?) (columnMember c).render := by
  have hoptions : ∀ unique, options c.type unique ∈ ["", "\"uuid\"", "\x7b " ++ columnOptions c.type ++ " \x7d",
      "\x7b " ++ columnOptions c.type ++ ", unique: true \x7d"] := by
    intro unique
    cases unique <;> simp [options, String.append_assoc]
  have hindex : ∀ unique : Bool, (if unique then [Decorator.uniqueIndex] else []) = [] ∨
      (if unique then [Decorator.uniqueIndex] else []) = [.uniqueIndex] := by
    intro unique
    cases unique with
    | false => exact .inl rfl
    | true => exact .inr rfl
  rw [columnMember, columnDecorators]
  cases c.primary with
  | false => exact spells_decorated c key? (.column c.type c.unique) List.mem_cons_self (hoptions _) (.inl rfl)
  | true =>
    have hgenerated : ∀ uuid, SpellsMember (.column c key?) (Member.mk (.primaryGeneratedColumn uuid ::
        if c.unique then [.uniqueIndex] else []) c.name (TypeScript.typeName c.type)).render := by
      intro uuid
      refine spells_decorated c key? (.primaryGeneratedColumn uuid) ?_ ?_ (hindex _)
      · exact List.mem_cons_of_mem _ (List.mem_cons_of_mem _ List.mem_cons_self)
      · cases uuid <;> simp [Decorator.arguments]
    have hprimary := spells_decorated c key? (.primaryColumn c.type c.unique)
      (List.mem_cons_of_mem _ List.mem_cons_self) (hoptions _) (.inl rfl)
    cases ht : c.type <;> rw [ht] at hgenerated hprimary
    · exact hgenerated true
    · exact hprimary
    · exact hprimary
    · exact hgenerated false
    all_goals exact hprimary

lemma join_storage (role : Role) : String.join ((storageDecorators role).map fun d =>
    "  @" ++ d.name ++ "(" ++ d.arguments ++ ")\n") = joined role := by
  -- the literals are cut where the decorator puts its name and its arguments together
  have hclose : "\" \x7d)\n" = "\" \x7d" ++ ")\n" := rfl
  cases role with
  | owner k =>
    have hopen : "  @JoinColumn(\x7b name: \"" = "  @" ++ ("JoinColumn" ++ ("(" ++ "\x7b name: \"")) := rfl
    have harguments : (Decorator.joinColumn k).arguments =
      "\x7b name: \"" ++ k.column ++ "\", referencedColumnName: \"" ++ k.referencedColumn ++ "\" \x7d" := rfl
    delta joined
    simp only [hopen, hclose]
    simp only [storageDecorators, List.map_cons, List.map_nil, String.join_cons, String.join_nil, harguments,
      String.append_assoc, String.append_empty]
    rfl
  | inverse k => rfl
  | junction j atSource =>
    cases atSource with
    | false => rfl
    | true =>
      have hopen : "  @JoinTable(\x7b name: \"" = "  @" ++ ("JoinTable" ++ ("(" ++ "\x7b name: \"")) := rfl
      have hjoin : "\", joinColumn: \x7b name: \"" = "\", joinColumn: " ++ "\x7b name: \"" := rfl
      have hinverse : "\" \x7d, inverseJoinColumn: \x7b name: \"" =
        "\" \x7d" ++ (", inverseJoinColumn: " ++ "\x7b name: \"") := rfl
      have hclose : "\" \x7d \x7d)\n" = "\" \x7d" ++ (" \x7d" ++ ")\n") := rfl
      have harguments : (Decorator.joinTable j).arguments = "\x7b name: \"" ++ j.name ++ "\", joinColumn: " ++
        columnReference j.source.column j.source.referencedColumn ++ ", inverseJoinColumn: " ++
        columnReference j.target.column j.target.referencedColumn ++ " \x7d" := rfl
      delta joined
      simp only [hopen, hjoin, hinverse, hclose]
      simp only [storageDecorators, List.map_cons, List.map_nil, String.join_cons, String.join_nil, harguments,
        columnReference, String.append_assoc, String.append_empty]
      rfl

lemma spells_relation (x : End) : SpellsMember (.relation x) (relationMember x).render := by
  have harguments : ∀ kind, (Decorator.relation kind x.related.name x.inverseField).arguments = "() => " ++
    x.related.name ++ ", (" ++ Text.lowerFirst x.related.name ++ ") => " ++ Text.lowerFirst x.related.name ++ "." ++
      x.inverseField := fun _ => rfl
  have hname : ∀ kind related inverseField, (Decorator.relation kind related inverseField).name = kind.name :=
    fun _ _ _ => rfl
  have htext : (relationMember x).render = "  @" ++ (relationDecorator x.kind x.cardinality).name ++
      "(() => " ++ x.related.name ++ ", (" ++ Text.lowerFirst x.related.name ++ ") => " ++
      Text.lowerFirst x.related.name ++ "." ++ x.inverseField ++ ")\n" ++ joined x.role ++ "  " ++ x.field ++
      ": " ++ TypeScript.relatedType x ++ ";" := by
    have harrow : "(() => " = "(" ++ "() => " := rfl
    rw [Member.render_eq, relationMember, List.map_cons, String.join_cons, join_storage, hname, harguments, harrow]
    simp only [String.append_assoc]
  exact htext ▸ .relation x

lemma spells_remarked {parts : List Part} {lines : List String} (h : List.Forall₂ SpellsMember parts lines) :
    List.Forall₂ Spells parts (remarked lines) := by
  cases h with
  | nil => exact .nil
  | cons h hs => exact .cons (.remarked h) (hs.imp fun _ _ => .plain)

lemma spells_lines (r : Resolution) (e : Entity) : List.Forall₂ Spells (parts r e) (lines r e) := by
  rw [lines, Resolution.addedColumnsOf, List.map_map]
  refine List.rel_append ?_ (spells_remarked (List.rel_append ?_ (forall₂_map _ spells_relation)))
  · exact forall₂_map _ fun c => .plain (spells_column c _)
  · exact forall₂_map _ fun k => spells_column k.toColumn (some k)

end TypeOrm

namespace SqlAlchemy

inductive Spells : Part → String → Prop
  | column (c : Column) (key? : Option ForeignKey) (options : List String)
      (h : options ⊆ ["primary_key=True", "default=uuid.uuid4", "autoincrement=True", "unique=True",
        "nullable=False"]) :
      Spells (.column c key?) ("    " ++ c.name ++ " = Column(" ++ ", ".intercalate (typeExpression c.type ::
        (key?.toList.map fun k =>
          "ForeignKey(\"" ++ k.referenced.lowerName ++ "." ++ k.referencedColumn ++ "\")") ++ options) ++ ")\n")
  | gap : Spells .gap "\n"
  | relation (x : End) : Spells (.relation x) ("    " ++ x.field ++ " = relationship(" ++
      ", ".intercalate (["\"" ++ x.related.name ++ "\"", "back_populates=\"" ++ x.inverseField ++ "\""] ++
        storageArguments x) ++ ")\n")

def parts (r : Resolution) (e : Entity) : List Part :=
  r.declaredParts e ++ r.addedParts e ++ apartParts (r.relationParts e)

lemma spells_column (c : MappedColumn) : Spells (.column c.column c.key) c.render := by
  have hreference : ∀ k : ForeignKey, "ForeignKey(" ++ target k.referenced k.referencedColumn ++ ")" =
      "ForeignKey(\"" ++ k.referenced.lowerName ++ "." ++ k.referencedColumn ++ "\")" := by
    intro k
    have hopen : "ForeignKey(\"" = "ForeignKey(" ++ "\"" := rfl
    have hclose : "\")" = "\"" ++ ")" := rfl
    rw [target, hopen, hclose]
    simp only [String.append_assoc]
  obtain ⟨options, hoptions, htext⟩ : ∃ options, options ⊆ ["primary_key=True", "default=uuid.uuid4",
      "autoincrement=True", "unique=True", "nullable=False"] ∧ c.arguments = typeExpression c.column.type ::
        (c.key.toList.map fun k =>
          "ForeignKey(\"" ++ k.referenced.lowerName ++ "." ++ k.referencedColumn ++ "\")") ++ options := by
    -- the options are what the arguments have behind the reference
    rw [MappedColumn.arguments, List.append_assoc, List.append_assoc]
    refine ⟨_, List.append_subset.mpr ⟨?_, List.append_subset.mpr ⟨?_, ?_⟩⟩,
      congrArg₂ HAppend.hAppend (congrArg (List.cons _) ?_) rfl⟩
    · cases c.column.primary with
      | false => simp
      | true => cases c.column.type <;> simp
    · cases c.column.unique <;> simp
    · cases c.key <;> simp
    · simp only [← hreference]
      cases c.key <;> rfl
  rw [MappedColumn.render, htext]
  exact .column c.column c.key options hoptions

lemma spells_relation (x : End) : Spells (.relation x) (relationshipLine x) := .relation x

lemma spells_lines (r : Resolution) (e : Entity) : List.Forall₂ Spells (parts r e) (lines r e) := by
  rw [lines, columns, List.map_append, List.map_map, List.map_map]
  refine List.rel_append (List.rel_append ?_ ?_) (forall₂_apart .gap (forall₂_map _ spells_relation))
  · exact forall₂_map _ fun c => spells_column ⟨c, _⟩
  · exact forall₂_map _ fun k => spells_column ⟨k.toColumn, some k⟩

end SqlAlchemy

namespace Mongoose

inductive Field.Spells : Field → String → Prop
  | plain (c : Column) (options : List String)
      (h : options ⊆ ["default: () => randomUUID()", "required: true", "unique: true", "immutable: true"]) :
      Spells (.column c none) ("  " ++ c.name ++ ": \x7b " ++
        ", ".intercalate (("type: " ++ typeName c.type) :: options) ++ " \x7d")
  | reference (c : Column) (k : ForeignKey) (options : List String)
      (h : options ⊆ ["default: () => randomUUID()", "required: true", "unique: true", "immutable: true"]) :
      Spells (.column c (some k)) ("  " ++ c.name ++ ": \x7b " ++ ", ".intercalate
        (["type: Schema.Types.ObjectId", "ref: '" ++ k.referenced.name ++ "'", "required: true"] ++ options) ++ " \x7d")
  | references (name related : String) : Spells (.references name related)
      ("  " ++ name ++ ": [\x7b type: Schema.Types.ObjectId, ref: '" ++ related ++ "' \x7d]")

inductive Spells : Part → String → Prop
  | column {c : Column} {key? : Option ForeignKey} {line : String} (h : (Field.column c key?).Spells line) :
      Spells (.column c key?) line
  | relation {x : End} {line : String} (h : (Field.references x.field x.related.name).Spells line) :
      Spells (.relation x) line

def isArray (x : End) : Bool :=
  match x.role with
  | .junction _ atSource => atSource
  | _ => false

def parts (r : Resolution) (e : Entity) : List Part :=
  r.declaredParts e ++ r.addedParts e ++ ((r.endsOf e.index).filter isArray).map .relation

lemma keyOptions_subset (c : Column) (isReference : Bool) : keyOptions c isReference ⊆
    ["default: () => randomUUID()", "required: true", "unique: true", "immutable: true"] := by
  rw [keyOptions]
  cases c.primary <;> cases c.unique <;> cases c.type == .uuid <;> cases isReference <;> simp

lemma Field.spells_render (f : Field) : f.Spells f.render := by
  cases f with
  | references name related => exact .references name related
  | column c key? =>
    cases key? with
    | none => exact .plain c (keyOptions c false) (keyOptions_subset c false)
    | some k => exact .reference c k (keyOptions c true) (keyOptions_subset c true)

lemma arrayField?_eq (x : End) :
    arrayField? x = if isArray x then some (.references x.field x.related.name) else none := by
  rw [arrayField?, isArray]
  cases x.role with
  | owner k => rfl
  | inverse k => rfl
  | junction j atSource => cases atSource <;> rfl

lemma arrayField?_eq_some {x : End} {f : Field} (h : arrayField? x = some f) :
    f = .references x.field x.related.name := by
  rw [arrayField?_eq] at h
  split at h
  · exact (Option.some.inj h).symm
  · exact absurd h.symm (Option.some_ne_none f)

lemma spells_arrays (xs : List End) : List.Forall₂ Spells ((xs.filter isArray).map .relation)
    ((xs.filterMap arrayField?).map (·.render)) := by
  induction xs with
  | nil => exact .nil
  | cons x xs ih =>
    rw [List.filter_cons, List.filterMap_cons, arrayField?_eq]
    cases isArray x with
    | false => exact ih
    | true => exact .cons (.relation (Field.spells_render _)) ih

lemma spells_lines (r : Resolution) (e : Entity) : List.Forall₂ Spells (parts r e) (lines r e) := by
  rw [lines, model, columnFields, List.map_append, List.map_append, List.map_map, List.map_map]
  refine List.rel_append (List.rel_append ?_ ?_) (spells_arrays _)
  · exact forall₂_map _ fun c => .column (Field.spells_render _)
  · exact forall₂_map _ fun k => .column (Field.spells_render _)

end Mongoose

namespace Dbml

inductive Spells : Part → String → Prop
  | column (c : Column) (key? : Option ForeignKey) (settings : List String)
      (h : settings ⊆ ["pk", "default: `gen_random_uuid()`", "increment", "unique", "not null"]) :
      Spells (.column c key?) ("  " ++ c.name ++ " " ++ typeName c.type ++
        (if settings.isEmpty then "" else " [" ++ ", ".intercalate settings ++ "]") ++ "\n")

def parts (r : Resolution) (e : Entity) : List Part := r.declaredParts e ++ r.addedParts e

lemma spells_column (c : TableColumn) (key? : Option ForeignKey) : Spells (.column c.column key?) c.render := by
  refine .column c.column key? c.settings ?_
  rw [TableColumn.settings]
  refine List.append_subset.mpr ⟨List.append_subset.mpr ⟨?_, ?_⟩, ?_⟩
  · cases c.column.primary with
    | false => simp
    | true => cases c.column.type <;> simp
  · cases c.column.unique <;> simp
  · cases c.notNull <;> simp

lemma spells_lines (r : Resolution) (e : Entity) : List.Forall₂ Spells (parts r e) (lines r e) := by
  rw [lines, block, Resolution.addedColumnsOf, List.map_append, List.map_map, List.map_map, List.map_map]
  refine List.rel_append ?_ ?_
  · exact forall₂_map _ fun c => spells_column ⟨c, false⟩ _
  · exact forall₂_map _ fun k => spells_column ⟨k.toColumn, true⟩ (some k)

end Dbml

namespace TypeScript

inductive Spells : Part → String → Prop
  | column (c : Column) (key? : Option ForeignKey) :
      Spells (.column c key?) ("  " ++ c.name ++ ": " ++ typeName c.type ++ ";\n")
  | gap : Spells .gap "\n"
  | relation (x : End) : Spells (.relation x) ("  " ++ x.field ++ "?: " ++ relatedType x ++ ";\n")

def parts (r : Resolution) (e : Entity) : List Part := r.declaredParts e ++ apartParts (r.relationParts e)

lemma spells_lines (r : Resolution) (e : Entity) : List.Forall₂ Spells (parts r e) (lines r e) :=
  List.rel_append (forall₂_map _ fun c => .column c _) (forall₂_apart .gap (forall₂_map _ .relation))

end TypeScript

end SchemaCode
