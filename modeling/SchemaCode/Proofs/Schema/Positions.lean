import Mathlib.Data.List.Forall2
import SchemaCode.Proofs.Schema.Decoding

/-! A text that is no object is read as a document just if it is a list of sections in their order. -/

namespace SchemaCode

open Json (Blank Items Listed Value ValueText)

namespace Json

variable {α β γ : Type} {P : List Char → α → Prop} {Q : List Char → γ → Prop} {R : β → α → Prop} {S : β → γ → Prop}
  {s t : List Char} {as : List α} {bs : List β}

lemma Listed.exists_forall₂ (h : Listed P t as) (hR : List.Forall₂ R bs as)
    (hPQ : ∀ {t b a}, R b a → P t a → ∃ c, Q t c ∧ S b c) : ∃ cs, Listed Q t cs ∧ List.Forall₂ S bs cs := by
  induction h generalizing bs with
  | one hu ht hv =>
    obtain ⟨b, bs', hb, hnil, rfl⟩ := List.forall₂_cons_right_iff.mp hR
    cases hnil
    obtain ⟨c, hc, hS⟩ := hPQ hb ht
    exact ⟨[c], .one hu hc hv, .cons hS .nil⟩
  | more hu ht hv _ ih =>
    obtain ⟨b, bs', hb, hbs, rfl⟩ := List.forall₂_cons_right_iff.mp hR
    obtain ⟨c, hc, hS⟩ := hPQ hb ht
    obtain ⟨cs, hcs, hSs⟩ := ih hbs
    exact ⟨c :: cs, .more hu hc hv hcs, .cons hS hSs⟩

lemma Items.exists_forall₂ (h : Items P t as) (hR : List.Forall₂ R bs as)
    (hPQ : ∀ {t b a}, R b a → P t a → ∃ c, Q t c ∧ S b c) : ∃ cs, Items Q t cs ∧ List.Forall₂ S bs cs := by
  cases h with
  | none hu =>
    cases hR
    exact ⟨[], .none hu, .nil⟩
  | some h =>
    obtain ⟨cs, hcs, hS⟩ := h.exists_forall₂ hR hPQ
    exact ⟨cs, .some hcs, hS⟩

def WholeText (depth : Nat) (s : List Char) (v : Value) : Prop :=
  ∃ u t w, Blank u ∧ ValueText depth t v ∧ Blank w ∧ s = u ++ (t ++ w)

lemma WholeText.unique {depth : Nat} {v v' : Value} (h : WholeText depth s v) (h' : WholeText depth s v') : v = v' := by
  obtain ⟨u, t, w, hu, ht, hw, hs⟩ := h
  obtain ⟨u', t', w', hu', ht', hw', hs'⟩ := h'
  have hend : ∀ {w}, Blank w → Delimited w := by
    intro w hw
    have hdelimited := delimited_nil.blank_append hw
    rwa [List.append_nil] at hdelimited
  have hread := ((Value.reader_reads depth).read_iff (hend hw)).mpr ⟨u, t, hu, ht, hs⟩
  have hread' := ((Value.reader_reads depth).read_iff (hend hw')).mpr ⟨u', t', hu', ht', hs'⟩
  exact (Prod.mk.inj (Except.ok.inj (hread.symm.trans hread'))).1

end Json

open Json (WholeText)

inductive StandsFor : SectionKey → Value → Prop
  | unnamed : StandsFor .name (.scalar .null)
  | name (s : String) : StandsFor .name (.scalar (.string s))
  | absent {key : SectionKey} (h : key ≠ .name) : StandsFor key (.scalar .null)
  | entries {key : SectionKey} (h : key ≠ .name) (vs : List Value) : StandsFor key (.array vs)

def InPlace (vs : List Value) : Prop := ∃ keys, keys <+: SectionKey.all ∧ List.Forall₂ StandsFor keys vs

def sectionDepth : Nat := DocumentSection.entryDepth + 1

variable {t : List Char} {x : DocumentSection} {key : SectionKey} {v : Value}

lemma EntriesText.exists_value {vs : List Value} (h : EntriesText t vs) (hkey : key ≠ .name) :
    ∃ v, ValueText sectionDepth t v ∧ StandsFor key v := by
  cases h with
  | null => exact ⟨_, .scalar .null, .absent hkey⟩
  | list h => exact ⟨_, .array h, .entries hkey vs⟩

lemma SectionText.exists_value (h : SectionText t x) : ∃ v, ValueText sectionDepth t v ∧ StandsFor x.key v := by
  cases h with
  | unnamed => exact ⟨_, .scalar .null, .unnamed⟩
  | name h => exact ⟨_, .scalar (.string h), .name _⟩
  | tables h => exact h.exists_value SectionKey.noConfusion
  | relationships h => exact h.exists_value SectionKey.noConfusion

lemma exists_sectionText_of_entries {vs : List Value} (h : EntriesText t vs) (hkey : key ≠ .name) :
    ∃ x, SectionText t x ∧ key = x.key := by
  cases key with
  | name => exact absurd rfl hkey
  | tables => exact ⟨_, .tables h, rfl⟩
  | relationships => exact ⟨_, .relationships h, rfl⟩

lemma StandsFor.exists_sectionText (h : StandsFor key v) (hv : ValueText sectionDepth t v) :
    ∃ x, SectionText t x ∧ key = x.key := by
  cases h with
  | unnamed =>
    cases hv with
    | scalar hx =>
      cases hx
      exact ⟨_, .unnamed, rfl⟩
  | name s =>
    cases hv with
    | scalar hx =>
      cases hx with
      | string hs => exact ⟨_, .name hs, rfl⟩
  | absent hkey =>
    cases hv with
    | scalar hx =>
      cases hx
      exact exists_sectionText_of_entries .null hkey
  | entries hkey vs =>
    cases hv with
    | array hvs => exact exists_sectionText_of_entries (.list hvs) hkey

def documentDepth : Nat := sectionDepth + 1

lemma documentText_of_inPlace {s : List Char} {vs : List Value} (h : WholeText documentDepth s (.array vs))
    (hvs : InPlace vs) : ∃ xs, DocumentText s xs := by
  obtain ⟨u, t, w, hu, ht, hw, rfl⟩ := h
  obtain ⟨keys, hkeys, hstand⟩ := hvs
  cases ht with
  | @array t vs ht =>
    obtain ⟨xs, hxs, hsame⟩ := ht.exists_forall₂ hstand (fun hb ha => hb.exists_sectionText ha)
    have hmap : keys = xs.map DocumentSection.key := by
      rw [← List.forall₂_eq_eq_eq, List.forall₂_map_right_iff]
      exact hsame
    have hdocument := DocumentText.list hu hxs hw (hmap ▸ hkeys)
    exact ⟨xs, by simpa using hdocument⟩

lemma DocumentText.exists_inPlace {s : List Char} {xs : Sections} (h : DocumentText s xs)
    (hs : (Json.skipBlank s).head? ≠ some '\x7b') : ∃ vs, WholeText documentDepth s (.array vs) ∧ InPlace vs := by
  cases h with
  | object hu ht hv hkeys =>
    rw [Json.skipBlank_append_cons hu (by decide)] at hs
    exact absurd rfl hs
  | @list u t v xs hu ht hv hkeys =>
    have hself : List.Forall₂ Eq xs xs := List.forall₂_refl xs
    obtain ⟨vs, hvs, hstand⟩ := ht.exists_forall₂ hself (fun heq hx => heq ▸ hx.exists_value)
    refine ⟨vs, ⟨u, _, v, hu, .array hvs, hv, by simp⟩, xs.map DocumentSection.key, hkeys, ?_⟩
    exact List.forall₂_map_left_iff.mpr hstand

namespace Schema

lemma ofText_error_iff (text : String) :
    (∃ reason, ofText text = .error reason) ↔ ¬ ∃ xs, DocumentText text.toList xs := by
  constructor
  · rintro ⟨reason, h⟩ ⟨xs, hxs⟩
    cases (ofText_eq_ok hxs).symm.trans h
  · intro h
    cases hread : ofText text with
    | error reason => exact ⟨reason, rfl⟩
    | ok s => exact absurd (exists_documentText hread) h

/-- A text that is no object is refused, unless it is a list whose values stand for the sections of a document in their
order; if it is no value at all it is refused anyway. -/
theorem ofText_without_braces {text : String} (h : (Json.skipBlank text.toList).head? ≠ some '\x7b') :
    (∀ v, WholeText documentDepth text.toList v →
        ((∃ reason, ofText text = .error reason) ↔ ¬ ∃ vs, v = .array vs ∧ InPlace vs)) ∧
      ((¬ ∃ v, WholeText documentDepth text.toList v) → ∃ reason, ofText text = .error reason) := by
  constructor
  · intro v hv
    rw [ofText_error_iff, not_iff_not]
    constructor
    · rintro ⟨xs, hxs⟩
      obtain ⟨vs, hvs, hplace⟩ := hxs.exists_inPlace h
      -- the text of the sections is the text of the value `v`, so `v` is their list
      exact ⟨vs, hv.unique hvs, hplace⟩
    · rintro ⟨vs, rfl, hplace⟩
      exact documentText_of_inPlace hv hplace
  · intro hnone
    rw [ofText_error_iff]
    rintro ⟨xs, hxs⟩
    obtain ⟨vs, hvs, -⟩ := hxs.exists_inPlace h
    exact hnone ⟨_, hvs⟩

theorem ofText_without_braces_flag :
    (Json.skipBlank "[null,true]".toList).head? ≠ some '\x7b' ∧ ∃ reason, ofText "[null,true]" = .error reason := by
  have hbraces : (Json.skipBlank "[null,true]".toList).head? ≠ some '\x7b' := by decide
  have hnil : Json.Blank [] := List.forall_mem_nil _
  have hflag : WholeText documentDepth "[null,true]".toList (.array [.scalar .null, .scalar (.bool true)]) :=
    ⟨[], _, [], hnil, .array (.some (.more hnil (.scalar .null) hnil (.one hnil (.scalar .true) hnil))), hnil, rfl⟩
  refine ⟨hbraces, ((ofText_without_braces hbraces).1 _ hflag).mpr ?_⟩
  rintro ⟨vs, he, keys, -, hstand⟩
  cases he
  cases hstand with
  | cons _ hrest =>
    cases hrest with
    | cons hsecond _ => cases hsecond

theorem emptyList_decoded : ofText "[]" = .ok {} ∧ ¬ ∃ reason, ofText "[]" = .error reason := by
  have hnil : Json.Blank [] := List.forall_mem_nil _
  have hdocument : DocumentText "[]".toList [] := .list hnil (.none hnil) hnil List.nil_prefix
  have hread : ofText "[]" = .ok {} := ofText_eq_ok hdocument
  refine ⟨hread, ?_⟩
  rintro ⟨reason, h⟩
  cases hread.symm.trans h

end Schema

end SchemaCode
