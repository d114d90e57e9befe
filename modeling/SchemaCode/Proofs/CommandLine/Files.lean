import Mathlib.Data.List.Basic
import SchemaCode.CommandLine.Run

namespace SchemaCode.CommandLine.FileTree

variable {t t' : FileTree} {current names p : Path} {name path contents : String}

def held (t : FileTree) (p : Path) : Place :=
  match t.file? p with
  | some contents => .file p contents
  | none => .vacant p

lemma isDirectory_congr (h : t'.directories = t.directories) (p : Path) : t'.isDirectory p = t.isDirectory p := by
  rw [isDirectory, isDirectory, h]

structure IsName (name : String) : Prop where
  dot : name ≠ "."
  dots : name ≠ ".."
  length : name.utf8ByteSize ≤ longestName

inductive Leads (t : FileTree) (p : Path) : (current names : Path) → Prop
  | arrive {current : Path} {name : String} (hname : IsName name) (hfile : t.isDirectory (current ++ [name]) = false)
      (hp : current ++ [name] = p) : Leads t p current [name]
  | stay {current names : Path} (h : Leads t p current names) : Leads t p current ("." :: names)
  | up {current names : Path} (h : Leads t p current.dropLast names) : Leads t p current (".." :: names)
  | enter {current names : Path} {name : String} (hname : IsName name)
      (hdirectory : t.isDirectory (current ++ [name]) = true) (h : Leads t p (current ++ [name]) names) :
      Leads t p current (name :: names)

lemma follow_name (hname : IsName name) (current names : Path) : t.follow current (name :: names) =
    if t.isDirectory (current ++ [name]) then t.follow (current ++ [name]) names
    else match t.file? (current ++ [name]), names with
      | some contents, [] => .ok (.file (current ++ [name]) contents)
      | some _, _ :: _ => .error .notDirectory
      | none, [] => .ok (.vacant (current ++ [name]))
      | none, _ :: _ => .error .notFound := by
  rw [follow.eq_def]
  split
  · contradiction
  · rename_i h
    exact absurd (List.cons.inj h).1 hname.dot
  · rename_i h
    exact absurd (List.cons.inj h).1 hname.dots
  · rename_i h
    cases h
    exact if_neg (Nat.not_lt.mpr hname.length)

lemma Leads.follow (h : t.Leads p current names) : t.follow current names = .ok (t.held p) := by
  induction h with
  | @arrive current name hname hfile hp =>
    rw [follow_name hname, hfile, ← hp, held]
    cases t.file? (current ++ [name]) <;> rfl
  | stay h ih => exact ih
  | up h ih => exact ih
  | enter hname hdirectory h ih => rw [follow_name hname, if_pos hdirectory, ih]

lemma of_follow {place : Place} (h : t.follow current names = .ok place) :
    (∃ d, place = .directory d) ∨ ∃ p, place = t.held p ∧ t.Leads p current names := by
  have harrive : ∀ {current name}, name ≠ "." → name ≠ ".." → ¬ name.utf8ByteSize > longestName →
      ¬ t.isDirectory (current ++ [name]) = true → t.Leads (current ++ [name]) current [name] :=
    fun hdot hdots hlength hfile => .arrive ⟨hdot, hdots, Nat.not_lt.mp hlength⟩ (Bool.eq_false_iff.mpr hfile) rfl
  fun_induction follow t current names with
  | case1 current => exact .inl ⟨current, (Except.ok.inj h).symm⟩
  | case2 current names ih => exact (ih h).imp_right fun ⟨p, hplace, hleads⟩ => ⟨p, hplace, .stay hleads⟩
  | case3 current names ih => exact (ih h).imp_right fun ⟨p, hplace, hleads⟩ => ⟨p, hplace, .up hleads⟩
  | case4 => cases h
  | case5 current name names hdot hdots path hlength hdirectory ih =>
    exact (ih h).imp_right fun ⟨p, hplace, hleads⟩ =>
      ⟨p, hplace, .enter ⟨hdot, hdots, Nat.not_lt.mp hlength⟩ hdirectory hleads⟩
  | case6 current name hdot hdots path hlength hfile contents hcontents =>
    refine .inr ⟨path, ?_, harrive hdot hdots hlength hfile⟩
    rw [held, hcontents]
    exact (Except.ok.inj h).symm
  | case7 => cases h
  | case8 current name hdot hdots path hlength hfile hcontents =>
    refine .inr ⟨path, ?_, harrive hdot hdots hlength hfile⟩
    rw [held, hcontents]
    exact (Except.ok.inj h).symm
  | case9 => cases h

lemma Leads.of_directories (h : t.Leads p current names) (hdirectories : t'.directories = t.directories) :
    t'.Leads p current names := by
  induction h with
  | arrive hname hfile hp => exact .arrive hname ((isDirectory_congr hdirectories _).trans hfile) hp
  | stay h ih => exact .stay ih
  | up h ih => exact .up ih
  | enter hname hdirectory h ih => exact .enter hname ((isDirectory_congr hdirectories _).trans hdirectory) ih

lemma Leads.getLast?_eq (h : t.Leads p current names) : p.getLast? = names.getLast? := by
  have hcons : ∀ {current names}, t.Leads p current names → ∀ name, (name :: names).getLast? = names.getLast? := by
    rintro current (_ | ⟨n, names⟩) h name
    · cases h
    · exact List.getLast?_cons_cons
  induction h with
  | arrive hname hfile hp => rw [← hp, List.getLast?_concat, List.getLast?_singleton]
  | stay h ih => rw [ih, hcons h]
  | up h ih => rw [ih, hcons h]
  | enter hname hdirectory h ih => rw [ih, hcons h]

/-- What is written to `path`, or read from it, is in the file at `p`. -/
structure Spot (t : FileTree) (path : String) (p : Path) : Prop where
  length : path.utf8ByteSize ≤ longestPath
  file : asksDirectory path = false
  leads : t.Leads p (start path) (components path)

lemma Spot.of_directories (h : t.Spot path p) (hdirectories : t'.directories = t.directories) : t'.Spot path p :=
  ⟨h.length, h.file, h.leads.of_directories hdirectories⟩

lemma Spot.write (h : t.Spot path p) (contents : String) : t.write path contents = .ok (t.put p contents) := by
  rw [FileTree.write, if_neg (Nat.not_lt.mpr h.length), h.file, h.leads.follow, held]
  cases t.file? p <;> rfl

lemma exists_spot_of_write (h : t.write path contents = .ok t') : ∃ p, t.Spot path p ∧ t' = t.put p contents := by
  have hwrite := h
  unfold FileTree.write at h
  split at h
  · cases h
  rename_i hlength
  split at h
  · split at h <;> cases h
  rename_i hfile
  cases hfollow : t.follow (start path) (components path) with
  | error e =>
    rw [hfollow] at h
    cases h
  | ok place =>
    rcases of_follow hfollow with ⟨d, rfl⟩ | ⟨p, rfl, hleads⟩
    · rw [hfollow] at h
      cases h
    · have hspot : t.Spot path p := ⟨Nat.not_lt.mp hlength, Bool.eq_false_iff.mpr hfile, hleads⟩
      exact ⟨p, hspot, Except.ok.inj (hwrite.symm.trans (hspot.write contents))⟩

lemma Spot.read (h : t.Spot path p) (hcontents : t.file? p = some contents) : t.read path = .ok contents := by
  simp only [FileTree.read, locate, if_neg (Nat.not_lt.mpr h.length), h.leads.follow, held, hcontents, h.file]
  rfl

lemma files_ensureDirectory (t : FileTree) (base names : Path) : (t.ensureDirectory base names).2.files = t.files := by
  rw [ensureDirectory, createDirectory]
  split
  · rename_i h
    split at h <;> cases h
    rfl
  · split <;> rfl

lemma files_ensureAll (t : FileTree) (base backwards : Path) : (t.ensureAll base backwards).2.files = t.files := by
  fun_induction ensureAll t base backwards with
  | case1 => rfl
  | case2 name rest _ _ t' hall ih =>
    rw [hall] at ih
    rw [files_ensureDirectory, ih]
  | case3 name rest _ _ _ ih => exact ih
  | case4 => exact files_ensureDirectory t _ _

lemma files_createDirectories (t : FileTree) (path : String) : (t.createDirectories path).2.files = t.files := by
  rw [createDirectories]
  split
  · rfl
  · exact files_ensureAll t _ _

end SchemaCode.CommandLine.FileTree
