import Mathlib.Data.List.ReduceOption
import SchemaCode.Proofs.Json.Skipping
import SchemaCode.Schema.Document

/-! How a document is written, whatever the entries of its sections say. -/

namespace SchemaCode

open Json (Blank Bracket Delimited Items Listed LooseText Outcome Scalar ScalarText Value ValueText)
open Json.Quoted (Spells)

variable {s t u rest : List Char}

inductive EntriesText : List Char → List Value → Prop
  | null : EntriesText ['n', 'u', 'l', 'l'] []
  | list {t : List Char} {vs : List Value} (h : Items (ValueText DocumentSection.entryDepth) t vs) :
      EntriesText ('[' :: (t ++ [']'])) vs

inductive SectionText : List Char → DocumentSection → Prop
  | unnamed : SectionText ['n', 'u', 'l', 'l'] (.name none)
  | name {t cs : List Char} (h : Spells t cs) : SectionText ('"' :: (t ++ ['"'])) (.name (some (String.ofList cs)))
  | tables {t : List Char} {vs : List Value} (h : EntriesText t vs) : SectionText t (.tables vs)
  | relationships {t : List Char} {vs : List Value} (h : EntriesText t vs) : SectionText t (.relationships vs)

/-- A member of a document that is an object; there is no section where the key is unknown. -/
inductive DocumentMember : List Char → Option DocumentSection → Prop
  | known {k cs u v t : List Char} {x : DocumentSection} (hk : Spells k cs) (hkey : String.ofList cs = x.key.spelling)
      (hu : Blank u) (hv : Blank v) (ht : SectionText t x) :
      DocumentMember ('"' :: (k ++ '"' :: (u ++ ':' :: (v ++ t)))) (some x)
  | unknown {k cs u v t : List Char} (hk : Spells k cs) (hkey : ∀ key : SectionKey, String.ofList cs ≠ key.spelling)
      (hu : Blank u) (hv : Blank v) (ht : LooseText t) :
      DocumentMember ('"' :: (k ++ '"' :: (u ++ ':' :: (v ++ t)))) none

inductive DocumentText : List Char → Sections → Prop
  | object {u t v : List Char} {ms : List (Option DocumentSection)} (hu : Blank u) (ht : Items DocumentMember t ms)
      (hv : Blank v) (hkeys : (ms.reduceOption.map DocumentSection.key).Nodup) :
      DocumentText (u ++ '\x7b' :: (t ++ '\x7d' :: v)) ms.reduceOption
  | list {u t v : List Char} {xs : Sections} (hu : Blank u) (ht : Items SectionText t xs) (hv : Blank v)
      (hkeys : xs.map DocumentSection.key <+: SectionKey.all) : DocumentText (u ++ '[' :: (t ++ ']' :: v)) xs

lemma DocumentText.nodup_keys {xs : Sections} (h : DocumentText t xs) : (xs.map DocumentSection.key).Nodup := by
  cases h with
  | object _ _ _ hkeys => exact hkeys
  | list _ _ _ hkeys => exact hkeys.sublist.nodup (by decide)

lemma not_delimited_null (s : List Char) : ¬ Delimited ('n' :: s) := by
  intro h
  exact absurd (h 'n' rfl) (by decide)

lemma SectionText.not_delimited {x : DocumentSection} (h : SectionText t x) : ¬ Delimited t := by
  have hentries : ∀ {t vs}, EntriesText t vs → ¬ Delimited t := by
    rintro t vs (_ | _)
    · exact not_delimited_null _
    · exact Json.not_delimited_opening .list _
  cases h with
  | unnamed => exact not_delimited_null _
  | name => exact Json.not_delimited_quote _
  | tables h => exact hentries h
  | relationships h => exact hentries h

namespace SectionKey

lemma ofString?_eq_some_iff {s : String} {key : SectionKey} : ofString? s = some key ↔ s = key.spelling := by
  constructor
  · intro h
    have hkey := List.find?_some h
    exact (eq_of_beq hkey).symm
  · rintro rfl
    cases key <;> decide

lemma ofString?_eq_none_iff {s : String} : ofString? s = none ↔ ∀ key : SectionKey, s ≠ key.spelling := by
  rw [Option.eq_none_iff_forall_ne_some]
  exact forall_congr' fun key => not_congr ofString?_eq_some_iff

end SectionKey

namespace DocumentSection

lemma readScalar_eq_ok_iff (expected : String) {x : Scalar} (h : Delimited rest) :
    readScalar expected s = .ok (x, rest) ↔ ∃ t, ScalarText t x ∧ s = t ++ rest := by
  constructor
  · intro hread
    unfold readScalar at hread
    split at hread
    · cases hread
    split at hread
    · cases hread
    split at hread
    · cases hread
    · exact (Scalar.read_eq_ok_iff h).mp hread
  · rintro ⟨t, ht, rfl⟩
    have hread := (Scalar.read_eq_ok_iff h).mpr ⟨t, ht, rfl⟩
    obtain ⟨c, t, rfl, hlist, hobject, -⟩ := ht.form.exists_cons
    rw [List.cons_append] at hread ⊢
    simp only [readScalar, if_neg hlist, if_neg hobject, hread]

lemma readName_eq_ok_iff {name : Option String} (h : Delimited rest) :
    readName s = .ok (name, rest) ↔ ∃ t, SectionText t (.name name) ∧ Json.skipBlank s = t ++ rest := by
  constructor
  · intro hread
    unfold readName at hread
    split at hread
    · cases hread
    · rename_i hx
      cases hread
      obtain ⟨_, ⟨⟩, hs⟩ := (readScalar_eq_ok_iff _ h).mp hx
      exact ⟨_, .unnamed, hs⟩
    · rename_i hx
      cases hread
      obtain ⟨_, ht, hs⟩ := (readScalar_eq_ok_iff _ h).mp hx
      cases ht with
      | string ht => exact ⟨_, .name ht, hs⟩
    · cases hread
  · rintro ⟨t, ht, hs⟩
    cases ht with
    | unnamed =>
      have hread := (readScalar_eq_ok_iff "a string" h).mpr ⟨_, .null, hs⟩
      rw [readName, hread]
    | name ht =>
      have hread := (readScalar_eq_ok_iff "a string" h).mpr ⟨_, .string ht, hs⟩
      rw [readName, hread]

lemma readEntryList_eq_ok_iff {vs : List Value} (h : Delimited rest) :
    readEntryList s = .ok (vs, rest) ↔ ∃ t, EntriesText t vs ∧ Json.skipBlank s = t ++ rest := by
  have hitems : ∀ r, (Value.reader entryDepth).items .list r = .ok (vs, rest) ↔
      ∃ t, Items (ValueText entryDepth) t vs ∧ r = t ++ ']' :: rest :=
    fun r => (Value.reader_reads entryDepth).items_eq_ok_iff
  constructor
  · intro hread
    unfold readEntryList at hread
    split at hread
    · rename_i hb
      obtain ⟨t, ht, rfl⟩ := (hitems _).mp hread
      exact ⟨_, .list ht, by simp [hb]⟩
    · split at hread
      · cases hread
      · rename_i hx
        cases hread
        obtain ⟨_, ⟨⟩, hs⟩ := (readScalar_eq_ok_iff _ h).mp hx
        exact ⟨_, .null, hs⟩
      · cases hread
  · rintro ⟨t, ht, hs⟩
    cases ht with
    | null =>
      have hread := (readScalar_eq_ok_iff "a sequence" h).mpr ⟨_, .null, hs⟩
      simp only [hs, List.cons_append, List.nil_append] at hread
      simp [readEntryList, hs, hread]
    | @list t vs ht =>
      rw [List.cons_append, List.append_assoc] at hs
      rw [readEntryList, hs]
      exact (hitems _).mpr ⟨t, ht, rfl⟩

lemma read_eq_ok_iff {key : SectionKey} {x : DocumentSection} (h : Delimited rest) : read key s = .ok (x, rest) ↔
    ∃ u t, Blank u ∧ (SectionText t x ∧ x.key = key) ∧ s = u ++ (t ++ rest) := by
  rw [← Json.exists_skipBlank_iff fun ht => SectionText.not_delimited ht.1]
  constructor
  · intro hread
    cases key with
    | name =>
      obtain ⟨⟨name, r⟩, hname, heq⟩ := Json.map_eq_ok_iff.mp hread
      cases heq
      obtain ⟨t, ht, hs⟩ := (readName_eq_ok_iff h).mp hname
      exact ⟨t, ⟨ht, rfl⟩, hs⟩
    | tables =>
      obtain ⟨⟨vs, r⟩, hentries, heq⟩ := Json.map_eq_ok_iff.mp hread
      cases heq
      obtain ⟨t, ht, hs⟩ := (readEntryList_eq_ok_iff h).mp hentries
      exact ⟨t, ⟨.tables ht, rfl⟩, hs⟩
    | relationships =>
      obtain ⟨⟨vs, r⟩, hentries, heq⟩ := Json.map_eq_ok_iff.mp hread
      cases heq
      obtain ⟨t, ht, hs⟩ := (readEntryList_eq_ok_iff h).mp hentries
      exact ⟨t, ⟨.relationships ht, rfl⟩, hs⟩
  · rintro ⟨t, ⟨ht, rfl⟩, hs⟩
    cases x with
    | name name => exact Json.map_eq_ok_iff.mpr ⟨_, (readName_eq_ok_iff h).mpr ⟨t, ht, hs⟩, rfl⟩
    | tables vs =>
      cases ht with
      | tables ht => exact Json.map_eq_ok_iff.mpr ⟨_, (readEntryList_eq_ok_iff h).mpr ⟨t, ht, hs⟩, rfl⟩
    | relationships vs =>
      cases ht with
      | relationships ht => exact Json.map_eq_ok_iff.mpr ⟨_, (readEntryList_eq_ok_iff h).mpr ⟨t, ht, hs⟩, rfl⟩

end DocumentSection

namespace Sections

variable {read st : Sections} {key : SectionKey} {keys : List SectionKey}

lemma readSection_eq_ok_iff (h : Delimited rest) : read.readSection key s = (st, .ok rest) ↔
    ∃ u t x, Blank u ∧ SectionText t x ∧ x.key = key ∧ s = u ++ (t ++ rest) ∧ st = read ++ [x] := by
  have hsection : read.readSection key s = (st, .ok rest) ↔
      ∃ x, DocumentSection.read key s = .ok (x, rest) ∧ st = read ++ [x] := by
    unfold readSection
    cases DocumentSection.read key s with
    | error f => simp
    | ok p =>
      obtain ⟨x, r⟩ := p
      simp only [Prod.mk.injEq, Except.ok.injEq]
      constructor
      · rintro ⟨hst, hr⟩
        exact ⟨x, ⟨rfl, hr⟩, hst.symm⟩
      · rintro ⟨_, ⟨rfl, hr⟩, hst⟩
        exact ⟨hst.symm, hr⟩
  rw [hsection]
  constructor
  · rintro ⟨x, hx, hst⟩
    obtain ⟨u, t, hu, ⟨ht, hkey⟩, hs⟩ := (DocumentSection.read_eq_ok_iff h).mp hx
    exact ⟨u, t, x, hu, ht, hkey, hs, hst⟩
  · rintro ⟨u, t, x, hu, ht, hkey, hs, hst⟩
    exact ⟨x, (DocumentSection.read_eq_ok_iff h).mpr ⟨u, t, hu, ⟨ht, hkey⟩, hs⟩, hst⟩

def add (read : Sections) : Option DocumentSection → Option Sections
  | none => some read
  | some x => if read.has x.key then none else some (read ++ [x])

lemma nodup_concat_iff (hread : (read.map DocumentSection.key).Nodup) (x : DocumentSection) :
    ((read ++ [x]).map DocumentSection.key).Nodup ↔ read.has x.key = false := by
  have hhas : read.has x.key = true ↔ x.key ∈ read.map DocumentSection.key := by
    simp [has]
  rw [← Bool.not_eq_true, hhas, List.map_append, List.map_singleton, List.nodup_append]
  simp only [hread, List.nodup_cons, List.not_mem_nil, not_false_eq_true, List.nodup_nil, and_self, true_and,
    List.mem_singleton, forall_eq]
  exact ⟨fun h hx => h _ hx rfl, fun h _ ha heq => h (heq ▸ ha)⟩

lemma foldlM_add (ms : List (Option DocumentSection)) (hread : (read.map DocumentSection.key).Nodup) :
    ms.foldlM add read = some st ↔ st = read ++ ms.reduceOption ∧ (st.map DocumentSection.key).Nodup := by
  induction ms generalizing read with
  | nil =>
    rw [List.foldlM_nil, List.reduceOption_nil, List.append_nil]
    constructor
    · rintro ⟨⟩
      exact ⟨rfl, hread⟩
    · rintro ⟨rfl, -⟩
      rfl
  | cons m ms ih =>
    cases m with
    | none => exact ih hread
    | some x =>
      have hconcat := nodup_concat_iff hread x
      rw [List.foldlM_cons, add, List.reduceOption_cons_of_some, List.append_cons read x ms.reduceOption]
      cases hx : read.has x.key with
      | false => exact ih (hconcat.mpr hx)
      | true =>
        -- the key stands twice, so neither side holds
        rw [hx] at hconcat
        constructor
        · intro h
          cases h
        · rintro ⟨rfl, h⟩
          have hsub := ((List.sublist_append_left (read ++ [x]) ms.reduceOption).map DocumentSection.key).nodup h
          cases hconcat.mp hsub

lemma of_readMember (hmember : read.readMember s = (st, .ok rest)) (h : Delimited rest) :
    ∃ u t m, Blank u ∧ DocumentMember t m ∧ s = u ++ (t ++ rest) ∧ read.add m = some st := by
  unfold readMember at hmember
  split at hmember
  · cases hmember
  · rename_i hkey
    obtain ⟨u, k, cs, hu, hk, rfl, rfl⟩ := Json.readKey_eq_ok_iff.mp hkey
    split at hmember
    · rename_i hname
      split at hmember
      · cases hmember
      · rename_i hcolon
        obtain ⟨v, hv, rfl⟩ := Json.skipColon_eq_ok_iff.mp hcolon
        obtain ⟨rfl, hvalue⟩ := Prod.mk.inj hmember
        obtain ⟨w, t, hw, ht, rfl⟩ := (Json.Skip.value_eq_ok_iff h).mp hvalue
        exact ⟨u, _, none, hu, .unknown hk (SectionKey.ofString?_eq_none_iff.mp hname) hv hw ht, by simp, rfl⟩
    · rename_i hname
      split at hmember
      · cases hmember
      · rename_i hhas
        split at hmember
        · cases hmember
        · rename_i hcolon
          obtain ⟨v, hv, rfl⟩ := Json.skipColon_eq_ok_iff.mp hcolon
          obtain ⟨w, t, x, hw, ht, rfl, rfl, rfl⟩ := (readSection_eq_ok_iff h).mp hmember
          exact ⟨u, _, some x, hu, .known hk (SectionKey.ofString?_eq_some_iff.mp hname) hv hw ht, by simp,
            if_neg hhas⟩

lemma readMember_key {k cs v : List Char} (hu : Blank u) (hk : Spells k cs) (hv : Blank v) (read : Sections)
    (r : List Char) : read.readMember (u ++ ('"' :: (k ++ '"' :: (v ++ ':' :: r)))) =
      match SectionKey.ofString? (String.ofList cs) with
      | none => (read, Json.Skip.value r)
      | some key =>
        if read.has key then (read, .error (repeated key (v ++ ':' :: r))) else read.readSection key r := by
  have hread : Json.readKey (u ++ '"' :: (k ++ '"' :: (v ++ ':' :: r))) = .ok (String.ofList cs, v ++ ':' :: r) :=
    Json.readKey_eq_ok_iff.mpr ⟨u, k, cs, hu, hk, rfl, rfl⟩
  have hcolon : Json.skipColon (v ++ ':' :: r) = .ok r := Json.skipColon_eq_ok_iff.mpr ⟨v, hv, rfl⟩
  cases hname : SectionKey.ofString? (String.ofList cs) with
  | none => simp only [readMember, hread, hname, hcolon]
  | some key => simp only [readMember, hread, hname, hcolon]

lemma readMember_of_text {m : Option DocumentSection} (hu : Blank u) (hm : DocumentMember t m)
    (hst : read.add m = some st) (h : Delimited rest) : read.readMember (u ++ (t ++ rest)) = (st, .ok rest) := by
  cases hm with
  | @known k cs v w t x hk hkey hv hw ht =>
    have hhas : ¬ read.has x.key = true := by
      intro hhas
      rw [add, if_pos hhas] at hst
      cases hst
    rw [add, if_neg hhas] at hst
    have hsection := (readSection_eq_ok_iff h).mpr ⟨w, t, x, hw, ht, rfl, rfl, (Option.some.inj hst).symm⟩
    simp only [List.cons_append, List.append_assoc]
    rw [readMember_key hu hk hv, SectionKey.ofString?_eq_some_iff.mpr hkey]
    exact (if_neg hhas).trans hsection
  | @unknown k cs v w t hk hkey hv hw ht =>
    have hvalue := (Json.Skip.value_eq_ok_iff h).mpr ⟨w, t, hw, ht, rfl⟩
    simp only [List.cons_append, List.append_assoc]
    rw [readMember_key hu hk hv, SectionKey.ofString?_eq_none_iff.mpr hkey]
    exact Prod.ext (Option.some.inj hst) hvalue

lemma member_accepts : member.Accepts DocumentMember add where
  starts h := by cases h <;> exact Json.not_delimited_quote _
  run_iff h := by
    constructor
    · exact fun hmember => of_readMember hmember h
    · rintro ⟨u, t, m, hu, hm, rfl, hst⟩
      exact readMember_of_text hu hm hst h

lemma object_eq_ok_iff : Json.items .object member [] s = (st, .ok rest) ↔
    ∃ t ms, Items DocumentMember t ms ∧ s = t ++ '\x7d' :: rest ∧ st = ms.reduceOption ∧
      (st.map DocumentSection.key).Nodup := by
  have hnil : (([] : Sections).map DocumentSection.key).Nodup := List.nodup_nil
  simp only [Json.items_eq_ok_iff member_accepts, foldlM_add _ hnil, List.nil_append, Bracket.close]

lemma readSection_ne_nil (h : read.readSection key s = (st, .ok rest)) : st ≠ [] := by
  unfold readSection at h
  split at h
  · cases h
  · cases h
    simp

lemma readEnd_eq_ok_iff : readEnd s = .ok rest ↔ ∃ v, Blank v ∧ s = v ++ ']' :: rest := by
  constructor
  · intro h
    unfold readEnd at h
    split at h
    · cases h
    · rename_i hb
      split at h
      · rename_i hc
        cases h
        obtain ⟨-, v, hv, rfl⟩ := Json.skipBlank_eq_cons_iff.mp hb
        exact ⟨v, hv, by rw [hc]⟩
      split at h
      · split at h <;> cases h
      · cases h
  · rintro ⟨v, hv, rfl⟩
    rw [readEnd, Json.skipBlank_append_cons hv (by decide)]
    exact if_pos rfl

lemma readPositions_close {v : List Char} (hv : Blank v) (read : Sections) (keys : List SectionKey) :
    readPositions read keys (v ++ ']' :: rest) = (read, .ok rest) := by
  cases keys with
  | nil => rw [readPositions, readEnd_eq_ok_iff.mpr ⟨v, hv, rfl⟩]
  | cons key keys =>
    have hblank : Json.isBlank ']' = false := by decide
    simp only [readPositions, Json.skipBlank_append_cons hv hblank, if_true]

def Follows (read : Sections) (s r : List Char) : Prop :=
  read = [] ∧ s = r ∨ read ≠ [] ∧ ∃ v, Blank v ∧ s = v ++ ',' :: r

lemma readPositions_section {x : DocumentSection} (hr : read.Follows s (u ++ (t ++ rest))) (hu : Blank u)
    (hx : SectionText t x) (h : Delimited rest) (keys : List SectionKey) :
    readPositions read (x.key :: keys) s = readPositions (read ++ [x]) keys rest := by
  have hsection : read.readSection x.key (u ++ (t ++ rest)) = (read ++ [x], .ok rest) :=
    (readSection_eq_ok_iff h).mpr ⟨u, t, x, hu, hx, rfl, rfl, rfl⟩
  have ht := hx.not_delimited
  cases t with
  | nil => exact absurd Json.delimited_nil ht
  | cons c t =>
    obtain ⟨hc, hclose⟩ := Json.of_not_delimited_cons ht
    rw [List.cons_append] at hr hsection
    have hskip : Json.skipBlank (u ++ c :: (t ++ rest)) = c :: (t ++ rest) := by
      rw [Json.skipBlank_append_cons hu hc]
    have hlist : c ≠ ']' := hclose .list
    obtain ⟨rfl, rfl⟩ | ⟨hread, v, hv, rfl⟩ := hr
    · simp only [readPositions, hskip, if_neg hlist, List.isEmpty_nil, if_true, hsection]
    · have hblank : Json.isBlank ',' = false := by decide
      have hcomma : ',' ≠ ']' := by decide
      have hempty : read.isEmpty = false := List.isEmpty_eq_false_iff.mpr hread
      simp only [readPositions, Json.skipBlank_append_cons hv hblank, if_neg hcomma, hempty, hskip]
      simp [hlist, hsection]

lemma of_readPositions (h : readPositions read (key :: keys) s = (st, .ok rest)) :
    (∃ v, Blank v ∧ s = v ++ ']' :: rest ∧ st = read) ∨
      ∃ r read' rest', read.Follows s r ∧ read.readSection key r = (read', .ok rest') ∧
        readPositions read' keys rest' = (st, .ok rest) := by
  unfold readPositions at h
  split at h
  · cases h
  · rename_i hb
    split at h
    · rename_i hc
      cases h
      obtain ⟨-, v, hv, rfl⟩ := Json.skipBlank_eq_cons_iff.mp hb
      exact .inl ⟨v, hv, by rw [hc], rfl⟩
    · right
      dsimp only at h
      split at h
      · cases h
      · rename_i r hstart
        split at h
        · rename_i hsection
          refine ⟨r, _, _, ?_, hsection, h⟩
          split at hstart
          · rename_i hread
            cases hstart
            exact .inl ⟨List.isEmpty_iff.mp hread, rfl⟩
          · rename_i hread
            split at hstart
            · cases hstart
            · rename_i hc
              split at hstart
              · cases hstart
              · cases hstart
              · cases hstart
                obtain ⟨-, v, hv, rfl⟩ := Json.skipBlank_eq_cons_iff.mp hb
                exact .inr ⟨List.isEmpty_iff.not.mp hread, v, hv, by rw [not_not.mp hc]⟩
        · cases h

lemma readPositions_listed {xs : Sections} (h : Listed SectionText t xs)
    (hkeys : xs.map DocumentSection.key <+: keys) (hr : read.Follows s (t ++ ']' :: rest)) :
    readPositions read keys s = (read ++ xs, .ok rest) := by
  induction h generalizing read keys s with
  | @one u t v x hu ht hv =>
    obtain ⟨keys, rfl⟩ := hkeys
    have hrest : Delimited (v ++ ']' :: rest) := (Json.delimited_close .list rest).blank_append hv
    rw [List.append_assoc, List.append_assoc] at hr
    rw [List.map_singleton, List.singleton_append, readPositions_section hr hu ht hrest, readPositions_close hv]
  | @more u t v r x xs hu ht hv h ih =>
    obtain ⟨keys, rfl⟩ := hkeys
    have hrest : Delimited (v ++ ',' :: (r ++ ']' :: rest)) := (Json.delimited_comma _).blank_append hv
    rw [List.append_assoc, List.append_assoc, List.append_assoc, List.cons_append] at hr
    rw [List.map_cons, List.cons_append, readPositions_section hr hu ht hrest,
      ih (List.prefix_append _ keys) (.inr ⟨by simp, v, hv, rfl⟩), List.append_assoc, List.singleton_append]

lemma listed_of_readPositions (h : readPositions read keys s = (st, .ok rest)) :
    (∃ v, Blank v ∧ s = v ++ ']' :: rest ∧ st = read) ∨ ∃ t xs, Listed SectionText t xs ∧
      xs.map DocumentSection.key <+: keys ∧ read.Follows s (t ++ ']' :: rest) ∧ st = read ++ xs := by
  induction keys generalizing read s with
  | nil =>
    obtain ⟨hst, hend⟩ := Prod.mk.inj h
    obtain ⟨v, hv, hs⟩ := readEnd_eq_ok_iff.mp hend
    exact .inl ⟨v, hv, hs, hst.symm⟩
  | cons key keys ih =>
    obtain hclose | ⟨r, read', rest', hr, hsection, h⟩ := of_readPositions h
    · exact .inl hclose
    right
    obtain ⟨w, hw, rfl, rfl⟩ | ⟨t', xs, hxs, hkeys, ⟨hnil, -⟩ | ⟨-, w, hw, rfl⟩, rfl⟩ := ih h
    · have hrest : Delimited (w ++ ']' :: rest) := (Json.delimited_close .list rest).blank_append hw
      obtain ⟨u, t, x, hu, ht, rfl, rfl, rfl⟩ := (readSection_eq_ok_iff hrest).mp hsection
      exact ⟨_, [x], .one hu ht hw, List.prefix_append [x.key] keys, by simpa using hr, rfl⟩
    · exact absurd hnil (readSection_ne_nil hsection)
    · have hrest : Delimited (w ++ ',' :: (t' ++ ']' :: rest)) := (Json.delimited_comma _).blank_append hw
      obtain ⟨u, t, x, hu, ht, rfl, rfl, rfl⟩ := (readSection_eq_ok_iff hrest).mp hsection
      exact ⟨_, x :: xs, .more hu ht hw hxs, (List.prefix_cons_inj x.key).mpr hkeys, by simpa using hr, by simp⟩

lemma list_eq_ok_iff : readPositions [] SectionKey.all s = (st, .ok rest) ↔
    ∃ t, Items SectionText t st ∧ st.map DocumentSection.key <+: SectionKey.all ∧ s = t ++ ']' :: rest := by
  constructor
  · intro h
    obtain ⟨v, hv, hs, rfl⟩ | ⟨t, xs, hxs, hkeys, ⟨-, hs⟩ | ⟨hnil, -⟩, rfl⟩ := listed_of_readPositions h
    · exact ⟨v, .none hv, List.nil_prefix, hs⟩
    · exact ⟨t, .some hxs, hkeys, hs⟩
    · exact absurd rfl hnil
  · rintro ⟨t, ht, hkeys, rfl⟩
    cases ht with
    | none hu => exact readPositions_close hu [] _
    | some ht => exact readPositions_listed ht hkeys (.inl ⟨rfl, rfl⟩)

lemma readDocument_list (hu : Blank u) (r : List Char) :
    readDocument (u ++ '[' :: r) = readPositions [] SectionKey.all r := by
  rw [readDocument, Json.skipBlank_append_cons hu (by decide)]
  rfl

lemma readDocument_object (hu : Blank u) (r : List Char) :
    readDocument (u ++ '\x7b' :: r) = Json.items .object member [] r := by
  rw [readDocument, Json.skipBlank_append_cons hu (by decide)]
  rfl

lemma of_readDocument (h : readDocument s = (st, .ok rest)) : ∃ u r, Blank u ∧
    (s = u ++ '[' :: r ∧ readPositions [] SectionKey.all r = (st, .ok rest) ∨
      s = u ++ '\x7b' :: r ∧ Json.items .object member [] r = (st, .ok rest)) := by
  unfold readDocument at h
  split at h
  · rename_i hb
    obtain ⟨-, u, hu, rfl⟩ := Json.skipBlank_eq_cons_iff.mp hb
    exact ⟨u, _, hu, .inl ⟨rfl, h⟩⟩
  · rename_i hb
    obtain ⟨-, u, hu, rfl⟩ := Json.skipBlank_eq_cons_iff.mp hb
    exact ⟨u, _, hu, .inr ⟨rfl, h⟩⟩
  · split at h <;> cases h

end Sections

namespace Document

theorem read_eq_iff (text : String) (xs : Sections) : read text = ⟨xs, none⟩ ↔ DocumentText text.toList xs := by
  have hread : read text = ⟨xs, none⟩ ↔ ∃ v, Blank v ∧ Sections.readDocument text.toList = (xs, .ok v) := by
    constructor
    · intro h
      unfold read at h
      split at h
      · cases h
      · rename_i hok
        split at h
        · rename_i hb
          cases h
          exact ⟨_, Json.skipBlank_eq_nil_iff.mp hb, hok⟩
        · cases h
    · rintro ⟨v, hv, h⟩
      simp only [read, h, Json.skipBlank_eq_nil_iff.mpr hv]
  rw [hread]
  generalize text.toList = s
  constructor
  · rintro ⟨v, hv, h⟩
    obtain ⟨u, r, hu, ⟨rfl, hlist⟩ | ⟨rfl, hobject⟩⟩ := Sections.of_readDocument h
    · obtain ⟨t, ht, hkeys, rfl⟩ := Sections.list_eq_ok_iff.mp hlist
      exact .list hu ht hv hkeys
    · obtain ⟨t, ms, ht, rfl, rfl, hkeys⟩ := Sections.object_eq_ok_iff.mp hobject
      exact .object hu ht hv hkeys
  · rintro (⟨hu, ht, hv, hkeys⟩ | ⟨hu, ht, hv, hkeys⟩)
    · refine ⟨_, hv, ?_⟩
      rw [Sections.readDocument_object hu]
      exact Sections.object_eq_ok_iff.mpr ⟨_, _, ht, rfl, rfl, hkeys⟩
    · refine ⟨_, hv, ?_⟩
      rw [Sections.readDocument_list hu]
      exact Sections.list_eq_ok_iff.mpr ⟨_, ht, hkeys, rfl⟩

end Document

end SchemaCode
