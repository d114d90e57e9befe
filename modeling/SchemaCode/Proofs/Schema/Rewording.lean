import Mathlib.Data.List.Forall2
import Mathlib.Logic.Relation
import SchemaCode.Proofs.Schema.Decoding

namespace SchemaCode

open Json (Value member?)

variable {α : Type} {ms ms' : List (String × Value)}

lemma member?_cons (m : String × Value) (ms : List (String × Value)) (key : String) :
    member? (m :: ms) key = (member? ms key).or (if m.1 = key then some m.2 else none) := by
  split
  · rename_i h
    subst h
    exact member?_cons_self [] ms m.1 m.2
  · rename_i h
    rw [Option.or_none]
    exact member?_cons_of_ne h [] ms m.2

lemma member?_eq_none_iff {key : String} : member? ms key = none ↔ ∀ m ∈ ms, m.1 ≠ key := by
  simp [member?]

lemma member?_eq_some_iff (hkeys : (ms.map Prod.fst).Nodup) {key : String} {v : Value} :
    member? ms key = some v ↔ (key, v) ∈ ms := by
  constructor
  · intro h
    obtain ⟨⟨k, w⟩, hfind, rfl⟩ := Option.map_eq_some_iff.mp h
    have hkey := List.find?_some hfind
    obtain rfl : k = key := eq_of_beq hkey
    exact List.mem_reverse.mp (List.mem_of_find?_eq_some hfind)
  · intro h
    obtain ⟨before, after, rfl⟩ := List.append_of_mem h
    rw [List.map_append, List.map_cons, List.nodup_append, List.nodup_cons] at hkeys
    have hafter : member? after key = none :=
      member?_eq_none_iff.mpr fun m hm hkey => hkeys.2.1.1 (List.mem_map.mpr ⟨m, hm, hkey⟩)
    rw [member?_cons_self, hafter, Option.none_or]

lemma member?_perm (hkeys : (ms.map Prod.fst).Nodup) (h : ms.Perm ms') (key : String) :
    member? ms' key = member? ms key := by
  have hkeys' : (ms'.map Prod.fst).Nodup := (h.map Prod.fst).nodup hkeys
  refine Option.ext fun v => ?_
  rw [member?_eq_some_iff hkeys, member?_eq_some_iff hkeys', h.mem_iff]

def respell (a b : String) (m : String × Value) : String × Value := if m.1 = a then (b, m.2) else m

lemma member?_respell {a b : String} (hb : ∀ m ∈ ms, m.1 ≠ b) (key : String) : member? (ms.map (respell a b)) key =
    if key = b then member? ms a else if key = a then none else member? ms key := by
  induction ms with
  | nil => simp [member?]
  | cons m ms ih =>
    obtain ⟨hm, hb⟩ := List.forall_mem_cons.mp hb
    have hmember : (if (respell a b m).1 = key then some (respell a b m).2 else none) =
        if key = b then (if m.1 = a then some m.2 else none)
        else if key = a then none else (if m.1 = key then some m.2 else none) := by
      rw [respell]
      grind
    rw [List.map_cons, member?_cons, member?_cons, member?_cons, ih hb, hmember]
    by_cases hkey : key = b
    · rw [if_pos hkey, if_pos hkey, if_pos hkey]
    · by_cases ha : key = a
      · rw [if_neg hkey, if_neg hkey, if_neg hkey, if_pos ha, if_pos ha, if_pos ha]
        rfl
      · rw [if_neg hkey, if_neg hkey, if_neg hkey, if_neg ha, if_neg ha, if_neg ha]

inductive Permutes : Value → Value → Prop
  | here {ms ms' : List (String × Value)} (hkeys : (ms.map Prod.fst).Nodup) (h : ms.Perm ms') :
      Permutes (.object ms) (.object ms')
  | item {before after : List Value} {v v' : Value} (h : Permutes v v') :
      Permutes (.array (before ++ v :: after)) (.array (before ++ v' :: after))
  | member {before after : List (String × Value)} {key : String} {v v' : Value} (h : Permutes v v') :
      Permutes (.object (before ++ (key, v) :: after)) (.object (before ++ (key, v') :: after))

namespace EntryKind

def places : EntryKind → List FieldPlace
  | .table => [⟨0, ["id"]⟩, ⟨1, ["name"]⟩, ⟨2, ["x"]⟩, ⟨3, ["y"]⟩, ⟨4, ["columns"]⟩]
  | .column => [⟨0, ["name"]⟩, ⟨1, ["type"]⟩, ⟨2, ["isPrimary", "is_primary"]⟩, ⟨3, ["isUnique", "is_unique"]⟩,
      ⟨4, ["isForeign", "is_foreign"]⟩]
  | .relationship => [⟨0, ["id"]⟩, ⟨1, ["source", "source_id"]⟩, ⟨2, ["target", "target_id"]⟩,
      ⟨3, ["sourceKey", "source_key"]⟩, ⟨4, ["targetKey", "target_key"]⟩, ⟨5, ["type"]⟩, ⟨6, ["through"]⟩]

def nullable : EntryKind → List String
  | .table => ["name", "columns"]
  | .column => ["name"]
  | .relationship => ["type", "through"]

def Spellings (kind : EntryKind) (a b : String) : Prop :=
  ∃ p ∈ kind.places, p.keys = [a, b] ∨ p.keys = [b, a]

inductive Rewords (kind : EntryKind) : Value → Value → Prop
  | respelled {ms : List (String × Value)} {a b : String} (hspellings : kind.Spellings a b) (hb : ∀ m ∈ ms, m.1 ≠ b) :
      Rewords kind (.object ms) (.object (ms.map (respell a b)))
  | unknown {before after : List (String × Value)} {key : String} (v : Value) (hkey : ∀ p ∈ kind.places, key ∉ p.keys) :
      Rewords kind (.object (before ++ after)) (.object (before ++ (key, v) :: after))
  | null {before after : List (String × Value)} {key : String} (hkey : key ∈ kind.nullable)
      (habsent : ∀ m ∈ before ++ after, m.1 ≠ key) :
      Rewords kind (.object (before ++ after)) (.object (before ++ (key, .scalar .null) :: after))
  | permuted {v v' : Value} (h : Permutes v v') : Rewords kind v v'

end EntryKind

inductive LooksAlike (nullable : Prop) : Option (Option Value) → Option (Option Value) → Prop
  | same (found : Option (Option Value)) : LooksAlike nullable found found
  | null (h : nullable) : LooksAlike nullable (some none) (some (some (.scalar .null)))
  | permuted {v v' : Value} (h : Permutes v v') : LooksAlike nullable (some (some v)) (some (some v'))

namespace Fields

variable {nullable : Prop} {f f' : Fields} {p : FieldPlace} {read : Value → Option α}

lemma required_congr (hread : ∀ v v', Permutes v v' → read v' = read v) (hnull : nullable → read (.scalar .null) = none)
    (h : LooksAlike nullable (f.get p) (f'.get p)) : f'.required p read = f.required p read := by
  simp only [required]
  generalize f.get p = found, f'.get p = found' at h
  cases h with
  | same => rfl
  | null h => exact hnull h
  | permuted h => exact hread _ _ h

lemma optional_congr (default : α) (hread : ∀ v v', Permutes v v' → read v' = read v)
    (hnull : nullable → read (.scalar .null) = some default) (h : LooksAlike nullable (f.get p) (f'.get p)) :
    f'.optional p default read = f.optional p default read := by
  simp only [optional]
  generalize f.get p = found, f'.get p = found' at h
  cases h with
  | same => rfl
  | null h => exact hnull h
  | permuted h => exact hread _ _ h

structure Alike (kind : EntryKind) (f f' : Fields) : Prop where
  fits : ∀ count, f'.fits count = f.fits count
  looks : ∀ p ∈ kind.places, LooksAlike (∃ key ∈ kind.nullable, p.keys = [key]) (f.get p) (f'.get p)

lemma get_keyed_congr (h : ∀ key ∈ p.keys, member? ms' key = member? ms key) :
    (keyed ms').get p = (keyed ms).get p := by
  rw [get, get, List.filterMap_congr h]

lemma get_respell {a b : String} (hb : ∀ m ∈ ms, m.1 ≠ b) (hp : p.keys = [a, b] ∨ p.keys = [b, a]) :
    (keyed (ms.map (respell a b))).get p = (keyed ms).get p := by
  have hnone : member? ms b = none := member?_eq_none_iff.mpr hb
  have hfound : p.keys.filterMap (member? (ms.map (respell a b))) = p.keys.filterMap (member? ms) := by
    rcases hp with hp | hp
    · by_cases hab : a = b <;> simp [hp, member?_respell hb, hnone, hab, List.filterMap_cons]
    · by_cases hab : a = b <;> simp [hp, member?_respell hb, hnone, hab, List.filterMap_cons]
  rw [get, get, hfound]

lemma looksAlike_positional (before after : List Value) {v v' : Value} (h : Permutes v v') (p : FieldPlace) :
    LooksAlike nullable ((positional (before ++ v :: after)).get p) ((positional (before ++ v' :: after)).get p) := by
  simp only [get]
  rcases lt_trichotomy p.position before.length with hlt | heq | hgt
  · rw [List.getElem?_append_left hlt, List.getElem?_append_left hlt]
    exact .same _
  · rw [heq, List.getElem?_append_right le_rfl, List.getElem?_append_right le_rfl, Nat.sub_self]
    exact .permuted h
  · rw [List.getElem?_append_right hgt.le, List.getElem?_append_right hgt.le, List.getElem?_cons, List.getElem?_cons,
      if_neg (by omega), if_neg (by omega)]
    exact .same _

lemma looksAlike_keyed (before after : List (String × Value)) (key : String) {v v' : Value} (h : Permutes v v')
    (p : FieldPlace) : LooksAlike nullable ((keyed (before ++ (key, v) :: after)).get p)
      ((keyed (before ++ (key, v') :: after)).get p) := by
  have hmember : ∀ k, Option.Rel (Relation.ReflGen Permutes) (member? (before ++ (key, v) :: after) k)
      (member? (before ++ (key, v') :: after) k) := by
    intro k
    by_cases hk : key = k
    · subst hk
      rw [member?_cons_self, member?_cons_self]
      cases member? after key with
      | none => exact .some (.single h)
      | some w => exact .some .refl
    · rw [member?_cons_of_ne hk, member?_cons_of_ne hk]
      cases member? (before ++ after) k with
      | none => exact .none
      | some w => exact .some .refl
  have hfound : List.Forall₂ (Relation.ReflGen Permutes) (p.keys.filterMap (member? (before ++ (key, v) :: after)))
      (p.keys.filterMap (member? (before ++ (key, v') :: after))) :=
    List.rel_filterMap (fun k _ hk => hk ▸ hmember k) (List.forall₂_same.mpr fun k _ => rfl)
  simp only [get]
  generalize p.keys.filterMap (member? (before ++ (key, v) :: after)) = found,
    p.keys.filterMap (member? (before ++ (key, v') :: after)) = found' at hfound
  cases hfound with
  | nil => exact .same _
  | cons hw hfound =>
    cases hfound with
    | nil =>
      cases hw with
      | refl => exact .same _
      | single hw => exact .permuted hw
    | cons => exact .same _

end Fields

def EntryKind.Alike (kind : EntryKind) (v v' : Value) : Prop :=
  ∃ f f', Fields.ofValue? v = some f ∧ Fields.ofValue? v' = some f' ∧ f.Alike kind f'

lemma Permutes.alike (kind : EntryKind) {v v' : Value} (h : Permutes v v') : kind.Alike v v' := by
  cases h with
  | here hkeys h =>
    refine ⟨_, _, rfl, rfl, fun _ => rfl, fun p _ => ?_⟩
    rw [Fields.get_keyed_congr fun key _ => member?_perm hkeys h key]
    exact .same _
  | item h =>
    refine ⟨_, _, rfl, rfl, fun count => ?_, fun p _ => Fields.looksAlike_positional _ _ h p⟩
    simp [Fields.fits]
  | member h => exact ⟨_, _, rfl, rfl, fun _ => rfl, fun p _ => Fields.looksAlike_keyed _ _ _ h p⟩

namespace EntryKind

variable {kind : EntryKind} {v v' : Value}

lemma places_disjoint (kind : EntryKind) :
    ∀ p ∈ kind.places, ∀ q ∈ kind.places, p.keys = q.keys ∨ ∀ key ∈ p.keys, key ∉ q.keys := by
  cases kind <;> decide

lemma nullable_disjoint (kind : EntryKind) :
    ∀ key ∈ kind.nullable, ∀ p ∈ kind.places, p.keys = [key] ∨ key ∉ p.keys := by
  cases kind <;> decide

lemma Rewords.alike (h : kind.Rewords v v') : kind.Alike v v' := by
  cases h with
  | @respelled ms a b hspellings hb =>
    obtain ⟨q, hq, hkeys⟩ := hspellings
    refine ⟨_, _, rfl, rfl, fun _ => rfl, fun p hp => ?_⟩
    have hget : (Fields.keyed (ms.map (respell a b))).get p = (Fields.keyed ms).get p := by
      rcases kind.places_disjoint p hp q hq with hpq | hpq
      · exact Fields.get_respell hb (hpq ▸ hkeys)
      · refine Fields.get_keyed_congr fun key hkey => ?_
        have hspelling : key ≠ a ∧ key ≠ b := by
          have hkey := hpq key hkey
          rcases hkeys with hkeys | hkeys
          · simpa [hkeys] using hkey
          · simpa [hkeys, and_comm] using hkey
        rw [member?_respell hb, if_neg hspelling.2, if_neg hspelling.1]
    rw [hget]
    exact .same _
  | unknown v hkey =>
    refine ⟨_, _, rfl, rfl, fun _ => rfl, fun p hp => ?_⟩
    rw [Fields.get_keyed_congr fun k hk => member?_cons_of_ne (ne_of_mem_of_not_mem hk (hkey p hp)).symm _ _ v]
    exact .same _
  | @null before after key hkey habsent =>
    refine ⟨_, _, rfl, rfl, fun _ => rfl, fun p hp => ?_⟩
    rcases kind.nullable_disjoint key hkey p hp with hkeys | hkeys
    · have hnone : member? (before ++ after) key = none := member?_eq_none_iff.mpr habsent
      have hafter : member? after key = none :=
        member?_eq_none_iff.mpr fun m hm => habsent m (List.mem_append_right _ hm)
      obtain ⟨position, keys⟩ := p
      obtain rfl : keys = [key] := hkeys
      rw [get_keyed, get_keyed, member?_cons_self, hnone, hafter]
      exact .null ⟨key, hkey, rfl⟩
    · rw [Fields.get_keyed_congr fun k hk => member?_cons_of_ne (ne_of_mem_of_not_mem hk hkeys).symm _ _ _]
      exact .same _
  | permuted h => exact h.alike kind

end EntryKind

namespace Json.Value

variable {v v' : Value}

lemma string?_permutes (v v' : Value) (h : Permutes v v') : v'.string? = v.string? := by
  cases h <;> rfl

lemma bool?_permutes (v v' : Value) (h : Permutes v v') : v'.bool? = v.bool? := by
  cases h <;> rfl

lemma float?_permutes (v v' : Value) (h : Permutes v v') : v'.float? = v.float? := by
  cases h <;> rfl

end Json.Value

variable {f f' : Fields} {v v' : Value}

lemma Column.ofFields?_congr (h : f.Alike .column f') : ofFields? f' = ofFields? f := by
  obtain ⟨hfits, hlooks⟩ := h
  simp only [EntryKind.places, List.forall_mem_cons] at hlooks
  obtain ⟨hname, htype, hprimary, hunique, hforeign, -⟩ := hlooks
  have htypes : ∀ v v', Permutes v v' → v'.string?.map ColumnType.ofString = v.string?.map ColumnType.ofString :=
    fun v v' hv => congrArg (Option.map ColumnType.ofString) (Value.string?_permutes v v' hv)
  simp only [ofFields?, hfits, Fields.required_congr Value.string?_permutes (fun _ => rfl) hname,
    Fields.optional_congr .varchar htypes (fun h => absurd h (by decide)) htype,
    Fields.optional_congr false Value.bool?_permutes (fun h => absurd h (by decide)) hprimary,
    Fields.optional_congr false Value.bool?_permutes (fun h => absurd h (by decide)) hunique,
    Fields.optional_congr false Value.bool?_permutes (fun h => absurd h (by decide)) hforeign]

lemma Relationship.ofFields?_congr (h : f.Alike .relationship f') : ofFields? f' = ofFields? f := by
  obtain ⟨hfits, hlooks⟩ := h
  simp only [EntryKind.places, List.forall_mem_cons] at hlooks
  obtain ⟨hid, hsource, htarget, hsourceKey, htargetKey, htype, hthrough, -⟩ := hlooks
  have hkinds : ∀ v v', Permutes v v' → Value.orNull (fun v => v.string?.map RelationKind.ofString) v' =
      Value.orNull (fun v => v.string?.map RelationKind.ofString) v := by
    rintro _ _ ⟨⟩ <;> rfl
  have hnames : ∀ v v', Permutes v v' → Value.orNull (·.string?) v' = Value.orNull (·.string?) v := by
    rintro _ _ ⟨⟩ <;> rfl
  simp only [ofFields?, hfits,
    Fields.optional_congr "" Value.string?_permutes (fun h => absurd h (by decide)) hid,
    Fields.required_congr Value.string?_permutes (fun _ => rfl) hsource,
    Fields.required_congr Value.string?_permutes (fun _ => rfl) htarget,
    Fields.optional_congr "" Value.string?_permutes (fun h => absurd h (by decide)) hsourceKey,
    Fields.optional_congr "" Value.string?_permutes (fun h => absurd h (by decide)) htargetKey,
    Fields.optional_congr none hkinds (fun _ => rfl) htype,
    Fields.optional_congr none hnames (fun _ => rfl) hthrough]

lemma Table.headerOf?_of_alike (h : f.Alike .table f') : headerOf? f' = headerOf? f := by
  have hlooks := h.looks
  simp only [EntryKind.places, List.forall_mem_cons] at hlooks
  obtain ⟨hid, hname, hx, hy, -⟩ := hlooks
  simp only [headerOf?, Fields.required_congr Value.string?_permutes (fun _ => rfl) hid,
    Fields.required_congr Value.string?_permutes (fun _ => rfl) hname,
    Fields.optional_congr 0 Value.float?_permutes (fun h => absurd h (by decide)) hx,
    Fields.optional_congr 0 Value.float?_permutes (fun h => absurd h (by decide)) hy]

namespace EntryReader

lemma understood?_of_fields {read : EntryReader α} (h : Fields.ofValue? v = some f) :
    read.understood? v = (read v).1 := by
  cases v with
  | scalar x => cases h
  | array items => rfl
  | object ms => rfl

lemma filterMap_understood? {read : EntryReader α} (h : read.understood? v' = read.understood? v) (vs ws : List Value) :
    (vs ++ v' :: ws).filterMap read.understood? = (vs ++ v :: ws).filterMap read.understood? := by
  rw [List.filterMap_append, List.filterMap_append, List.filterMap_cons, List.filterMap_cons, h]

end EntryReader

lemma Column.understood?_of_alike (h : EntryKind.column.Alike v v') :
    EntryReader.understood? read v' = EntryReader.understood? read v := by
  obtain ⟨f, f', hf, hf', h⟩ := h
  rw [EntryReader.understood?_of_fields hf, EntryReader.understood?_of_fields hf', read, read, hf, hf']
  exact ofFields?_congr h

lemma Relationship.understood?_of_alike (h : EntryKind.relationship.Alike v v') :
    EntryReader.understood? read v' = EntryReader.understood? read v := by
  obtain ⟨f, f', hf, hf', h⟩ := h
  rw [EntryReader.understood?_of_fields hf, EntryReader.understood?_of_fields hf', read, read, hf, hf']
  exact ofFields?_congr h

namespace Table

lemma readColumns_fst_of_permutes (h : Permutes v v') : (readColumns (some v')).1 = (readColumns (some v)).1 := by
  cases h with
  | here => rfl
  | item h =>
    exact readColumns_fst_of_filterMap
      (EntryReader.filterMap_understood? (Column.understood?_of_alike (h.alike .column)) _ _)
  | member => rfl

lemma understood?_of_alike (h : EntryKind.table.Alike v v') :
    EntryReader.understood? read v' = EntryReader.understood? read v := by
  obtain ⟨f, f', hf, hf', h⟩ := h
  have hcolumns : (readColumns (f'.get ⟨4, ["columns"]⟩).join).1 = (readColumns (f.get ⟨4, ["columns"]⟩).join).1 := by
    have hlooks := h.looks ⟨4, ["columns"]⟩ (by simp [EntryKind.places])
    generalize f.get ⟨4, ["columns"]⟩ = found, f'.get ⟨4, ["columns"]⟩ = found' at hlooks
    cases hlooks with
    | same => rfl
    | null => rfl
    | permuted h => exact readColumns_fst_of_permutes h
  have hread : ∀ {v f}, Fields.ofValue? v = some f → (read v).1 = (readFields f).1 := fun hv => by rw [read, hv]
  rw [EntryReader.understood?_of_fields hf, EntryReader.understood?_of_fields hf', hread hf, hread hf', readFields_fst,
    readFields_fst, headerOf?_of_alike h, hcolumns, h.fits]

end Table

end SchemaCode
