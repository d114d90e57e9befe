import SchemaCode.Generate
import SchemaCode.Proofs.Text.Lines

namespace SchemaCode

open Text (BreaksAround OneLine)

namespace Format

def Titled (f : Format) (rest code : String) : Prop :=
  ∃ line, OneLine line ∧ f.commentMark.toList <+: line.toList ∧ code = line ++ "\n\n" ++ rest

lemma oneLine_commentMark (f : Format) : OneLine f.commentMark := by cases f <;> decide

lemma oneLine_heading (f : Format) : OneLine f.heading := by cases f <;> decide

lemma breaksAround_of_trim_eq_empty {name : String} (h : Text.trim name = "") : BreaksAround name := by
  rw [← Text.oneLine_trim_iff, h]
  decide

lemma oneLine_title_iff (f : Format) (project : Option String) :
    OneLine (f.title project) ↔ ∀ name, project = some name → BreaksAround name := by
  cases project with
  | none =>
    constructor
    · exact fun _ _ h => nomatch h
    · exact fun _ => f.oneLine_heading
  | some name =>
    have hname : (∀ name', some name = some name' → BreaksAround name') ↔ BreaksAround name :=
      ⟨fun h => h name rfl, fun h _ he => Option.some.inj he ▸ h⟩
    rw [hname]
    by_cases hblank : Text.trim name = ""
    · have htitle : f.title (some name) = f.heading := by simp only [title, Option.map_some, hblank]
      rw [htitle]
      exact iff_of_true f.oneLine_heading (breaksAround_of_trim_eq_empty hblank)
    · have htitle : f.title (some name) = f.heading ++ " for " ++ Text.trim name := by simp [title]
      have hfor : OneLine " for " := by decide
      rw [htitle, Text.oneLine_append, Text.oneLine_append, Text.oneLine_trim_iff]
      simp only [f.oneLine_heading, hfor, true_and]

lemma oneLine_comment_iff (f : Format) (text : String) : OneLine (f.comment text) ↔ OneLine text := by
  have hspace : OneLine " " := by decide
  simp only [comment, Text.oneLine_append, f.oneLine_commentMark, hspace, true_and]

lemma isPrefix_comment (f : Format) (text : String) : f.commentMark.toList <+: (f.comment text).toList := by
  rw [comment, String.append_assoc, String.toList_append]
  exact List.prefix_append _ _

lemma Titled.dropWhile_eq {f : Format} {rest code : String} (h : f.Titled rest code) :
    code.toList.dropWhile (fun c => !Text.isBreak c) = '\n' :: '\n' :: rest.toList := by
  obtain ⟨line, hline, -, rfl⟩ := h
  have hskip : ∀ c ∈ line.toList, (!Text.isBreak c) = true := by
    intro c hc
    rw [hline c hc]
    rfl
  rw [String.append_assoc, String.toList_append, List.dropWhile_append_of_pos hskip, String.toList_append]
  rfl

end Format

namespace Schema

lemma generate_eq_title (s : Schema) (f : Format) :
    s.generate f = f.comment (f.title s.name) ++ "\n\n" ++ f.body s.resolve := rfl

theorem generate_titled_iff (tables : List Table) (relationships : List Relationship) (f : Format) :
    ∃ rest, ∀ name : Option String, f.Titled rest (generate ⟨name, tables, relationships⟩ f) ↔
      ∀ project, name = some project → BreaksAround project := by
  refine ⟨f.body (resolve ⟨none, tables, relationships⟩), fun name => ?_⟩
  rw [← f.oneLine_title_iff name, ← f.oneLine_comment_iff]
  constructor
  · rintro ⟨line, hline, -, hcode⟩
    have hsame : f.comment (f.title name) = line :=
      (String.append_left_inj _).mp ((String.append_left_inj _).mp hcode)
    rwa [hsame]
  · exact fun h => ⟨_, h, f.isPrefix_comment _, rfl⟩

def twoLines : Schema where
  name := some "Blog\nPost"

theorem twoLines_not_titled : ¬ ∃ rest, Format.sql.Titled rest (twoLines.generate .sql) := by
  rintro ⟨rest, h⟩
  have htitle : (Format.sql.comment (Format.sql.title twoLines.name)).toList.dropWhile (fun c => !Text.isBreak c) =
      ['\n', 'P', 'o', 's', 't'] := by decide +kernel
  have hcode := h.dropWhile_eq
  rw [generate_eq_title, String.append_assoc, String.toList_append, List.dropWhile_append, htitle] at hcode
  exact absurd (List.cons.inj (List.cons.inj hcode).2).1 (by decide)

end Schema

end SchemaCode
