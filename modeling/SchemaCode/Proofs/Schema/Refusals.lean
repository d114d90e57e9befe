import SchemaCode.Proofs.Code.Titles
import SchemaCode.Proofs.Json.Faults
import SchemaCode.Proofs.Schema.Documents

/-! Why a text is refused. Whatever the text is, the reason is told on one line. -/

namespace SchemaCode

open Json (Blank Cause Delimited FailsFor Fault Found Outcome Scalar ScalarText Value)
open Text (OneLine)

inductive Refusal : Cause → Prop
  | form {c : Cause} (h : c.IsForm) : Refusal c
  | noDocument (found : Found) : Refusal (.wrongType found "struct Schema")
  | noString (found : Found) : Refusal (.wrongType found "a string")
  | noList (found : Found) : Refusal (.wrongType found "a sequence")
  | repeated (key : SectionKey) : Refusal (.duplicateField key.spelling)

lemma Refusal.oneLine_message {c : Cause} (h : Refusal c) : OneLine c.message := by
  have htype : ∀ (found : Found) (expected : String), OneLine expected →
      OneLine (Cause.wrongType found expected).message := by
    intro found expected hexpected
    have hfound := Text.oneLine_append.mpr ⟨(by decide : OneLine "invalid type: "), found.oneLine_describe⟩
    exact Text.oneLine_append.mpr ⟨Text.oneLine_append.mpr ⟨hfound, by decide⟩, hexpected⟩
  cases h with
  | form h => exact Cause.oneLine_message h
  | noDocument found => exact htype found _ (by decide)
  | noString found => exact htype found _ (by decide)
  | noList found => exact htype found _ (by decide)
  | repeated key => cases key <;> decide

lemma refusal_of_mindsForm {α : Type} {o : Except Fault α} (h : Json.MindsForm o) : FailsFor Refusal o :=
  h.mono fun _ => .form

namespace DocumentSection

lemma refusal_readScalar {expected : String} (hfound : ∀ found, Refusal (.wrongType found expected))
    (s : List Char) : FailsFor Refusal (readScalar expected s) := by
  unfold readScalar
  split
  · exact .error (.form trivial)
  · split
    · exact .error (hfound .array)
    split
    · exact .error (hfound .object)
    · exact refusal_of_mindsForm (Scalar.mindsForm_read _)

lemma refusal_readName (s : List Char) : FailsFor Refusal (readName s) := by
  unfold readName
  split
  · next hx => exact (refusal_readScalar .noString _).passed hx
  · exact .ok _
  · exact .ok _
  · exact .error (.noString _)

lemma refusal_readEntryList (s : List Char) : FailsFor Refusal (readEntryList s) := by
  unfold readEntryList
  split
  · exact refusal_of_mindsForm ((Value.mindsForm_reader entryDepth).items _ _)
  · split
    · next hx => exact (refusal_readScalar .noList _).passed hx
    · exact .ok _
    · exact .error (.noList _)

lemma refusal_read (key : SectionKey) (s : List Char) : FailsFor Refusal (read key s) := by
  cases key with
  | name => exact (refusal_readName s).map _
  | tables => exact (refusal_readEntryList s).map _
  | relationships => exact (refusal_readEntryList s).map _

end DocumentSection

namespace Sections

lemma cause_repeated (key : SectionKey) (s : List Char) : (repeated key s).cause = .duplicateField key.spelling := by
  unfold repeated
  split <;> rfl

lemma refusal_readSection (read : Sections) (key : SectionKey) (s : List Char) :
    FailsFor Refusal (read.readSection key s).2 := by
  unfold readSection
  split
  · next hx => exact (DocumentSection.refusal_read key s).passed hx
  · exact .ok _

lemma refusal_readMember (read : Sections) (s : List Char) : FailsFor Refusal (read.readMember s).2 := by
  have hcolon (rest : List Char) := refusal_of_mindsForm (Json.mindsForm_skipColon rest)
  unfold readMember
  split
  · next hx => exact (refusal_of_mindsForm (Json.mindsForm_readKey s)).passed hx
  · split
    · split
      · next hx => exact (hcolon _).passed hx
      · exact refusal_of_mindsForm (Json.Skip.mindsForm_value _)
    · next key _ =>
      split
      · refine .error ?_
        rw [cause_repeated]
        exact .repeated key
      · split
        · next hx => exact (hcolon _).passed hx
        · exact refusal_readSection _ _ _

lemma refusal_readEnd (s : List Char) : FailsFor Refusal (readEnd s) := by
  unfold readEnd
  split
  · exact .error (.form trivial)
  · split
    · exact .ok _
    split
    · split <;> exact .error (.form trivial)
    · exact .error (.form trivial)

lemma refusal_readPositions (read : Sections) (keys : List SectionKey) (s : List Char) :
    FailsFor Refusal (readPositions read keys s).2 := by
  induction keys generalizing read s with
  | nil => exact refusal_readEnd s
  | cons key keys ih =>
    unfold readPositions
    split
    · exact .error (.form trivial)
    · split
      · exact .ok _
      · dsimp only
        split
        · next hstart =>
          -- where a section starts, only the comma in front of it can be wrong
          refine .error (.form ?_)
          split at hstart
          · cases hstart
          split at hstart
          · cases hstart
            exact trivial
          split at hstart
          · cases hstart
            exact trivial
          · cases hstart
            exact trivial
          · cases hstart
        · next start _ =>
          have hsection := refusal_readSection read key start
          split
          · exact ih _ _
          · next hx =>
            rw [hx] at hsection
            exact hsection

lemma refusal_readDocument (s : List Char) : FailsFor Refusal (readDocument s).2 := by
  unfold readDocument
  split
  · exact refusal_readPositions _ _ _
  · exact Json.failsFor_items _ (fun _ => .form) refusal_readMember _ _
  · split
    · next hx => exact (DocumentSection.refusal_readScalar .noDocument _).passed hx
    · exact .error (.noDocument _)

lemma readDocument_scalar {u t rest : List Char} {x : Scalar} (hu : Blank u) (ht : ScalarText t x)
    (hrest : Delimited rest) :
    readDocument (u ++ (t ++ rest)) = ([], .error (.here (.wrongType (.scalar x) "struct Schema") rest)) := by
  have hread := (DocumentSection.readScalar_eq_ok_iff "struct Schema" hrest).mpr ⟨t, ht, rfl⟩
  obtain ⟨c, t, rfl, hlist, hobject, hc⟩ := ht.form.exists_cons
  obtain ⟨hblank, -⟩ := Json.of_not_delimited_cons hc
  rw [List.cons_append] at hread ⊢
  rw [readDocument, Json.skipBlank_append_cons hu hblank]
  split
  · rename_i h
    exact absurd (List.cons.inj h).1 hlist
  · rename_i h
    exact absurd (List.cons.inj h).1 hobject
  · rw [hread]

end Sections

lemma Document.refusal_fault {text : String} {f : Fault} (h : (Document.read text).fault = some f) :
    Refusal f.cause := by
  have hdocument := Sections.refusal_readDocument text.toList
  unfold Document.read at h
  split at h
  · next hx =>
    cases h
    rw [hx] at hdocument
    exact hdocument.of_error rfl
  · split at h
    · cases h
    · cases h
      exact .form trivial

lemma Schema.oneLine_reason {text reason : String} (h : ofText text = .error reason) : OneLine reason := by
  unfold ofText at h
  dsimp only at h
  split at h
  · rename_i f hf
    cases h
    have hcause := (Document.refusal_fault hf).oneLine_message
    simp only [Fault.message, Text.oneLine_append, hcause, Text.oneLine_toString, true_and, and_true]
    decide
  · cases h

theorem generateText_refused {text reason : String} (h : Schema.ofText text = .error reason) (format : String) :
    ∃ f line, (Format.ofString? format = some f ∨ Format.ofString? format = none ∧ f = .prisma) ∧
      line = f.commentMark ++ " " ++ ("invalid schema JSON: " ++ reason) ∧ OneLine line ∧
      generateText text format = line ++ "\n" := by
  refine ⟨Format.ofString format, _, ?_, rfl, ?_, ?_⟩
  · unfold Format.ofString
    cases Format.ofString? format with
    | none => exact .inr ⟨rfl, rfl⟩
    | some f => exact .inl rfl
  · have hmessage : OneLine ("invalid schema JSON: " ++ reason) :=
      Text.oneLine_append.mpr ⟨by decide, Schema.oneLine_reason h⟩
    exact (Format.oneLine_comment_iff _ _).mpr hmessage
  · unfold generateText
    rw [h]
    rfl

def quotedLines : String := "\"a\\r\\nb\""

theorem generateText_refused_quotedLines :
    Schema.ofText quotedLines =
        .error "invalid type: string \"a\\r\\nb\", expected struct Schema at line 1 column 8" ∧
      ∃ f line, (Format.ofString? "SQL" = some f ∨ Format.ofString? "SQL" = none ∧ f = .prisma) ∧
        line = f.commentMark ++ " " ++ ("invalid schema JSON: " ++
          "invalid type: string \"a\\r\\nb\", expected struct Schema at line 1 column 8") ∧
        OneLine line ∧ generateText quotedLines "SQL" = line ++ "\n" := by
  let fault : Fault := .here (.wrongType (.scalar (.string "a\r\nb")) "struct Schema") []
  have hspelled : Json.Quoted.Spells ['a', '\\', 'r', '\\', 'n', 'b'] ['a', '\r', '\n', 'b'] :=
    .plain (by decide) (by decide) (by decide) (.escape (.simple rfl) (.escape (.simple rfl)
      (.plain (by decide) (by decide) (by decide) .nil)))
  have hdocument : Sections.readDocument quotedLines.toList = ([], .error fault) :=
    Sections.readDocument_scalar (List.forall_mem_nil _) (.string hspelled) Json.delimited_nil
  have hread : Document.read quotedLines = ⟨[], some fault⟩ := by rw [Document.read, hdocument]
  have hmessage : fault.message quotedLines =
      "invalid type: string \"a\\r\\nb\", expected struct Schema at line 1 column 8" := by decide +kernel
  have hrefused : Schema.ofText quotedLines =
      .error "invalid type: string \"a\\r\\nb\", expected struct Schema at line 1 column 8" := by
    rw [Schema.ofText, hread, ← hmessage]
  exact ⟨hrefused, generateText_refused hrefused "SQL"⟩

end SchemaCode
