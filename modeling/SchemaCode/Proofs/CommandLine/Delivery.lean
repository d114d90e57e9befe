import SchemaCode.Proofs.CommandLine.Arguments
import SchemaCode.Proofs.CommandLine.Files
import SchemaCode.Proofs.Schema.RoundTrip

namespace SchemaCode.CommandLine

open FileTree (Spot asksDirectory components)

variable {t t' : FileTree} {s : Schema} {f : Format} {path directory text : String}

lemma exists_inDirectory (directory : String) :
    ∃ w, ∀ name, (inDirectory directory name).toList = w ++ '/' :: name.toList := by
  by_cases h : asksDirectory directory = true
  · obtain ⟨w, hw⟩ := List.getLast?_eq_some_iff.mp (eq_of_beq h)
    exact ⟨w, fun name => by simp [inDirectory, h, hw]⟩
  · exact ⟨directory.toList, fun name => by simp [inDirectory, h]⟩

lemma getLast?_components {name : String} (hname : name ≠ "") (hslash : '/' ∉ name.toList) (directory : String) :
    (components (inDirectory directory name)).getLast? = some name := by
  obtain ⟨w, hw⟩ := exists_inDirectory directory
  rw [components, hw, List.splitOn_append_cons_self, List.splitOn_eq_singleton hslash]
  simp [hname]

lemma fileName_of_spot {p : Path} (h : t.Spot (inDirectory directory f.fileName) p) :
    p.getLast? = some f.fileName := by
  rw [h.leads.getLast?_eq]
  refine getLast?_components ?_ ?_ directory
  · cases f <;> decide
  · cases f <;> decide

def FileTree.Accepts (t : FileTree) (path : String) : Prop := ∀ contents, ∃ t', t.write path contents = .ok t'

lemma accepts_iff : t.Accepts path ↔ ∃ p, t.Spot path p := by
  constructor
  · intro h
    obtain ⟨t', ht'⟩ := h ""
    obtain ⟨p, hp, -⟩ := FileTree.exists_spot_of_write ht'
    exact ⟨p, hp⟩
  · rintro ⟨p, hp⟩ contents
    exact ⟨_, hp.write contents⟩

/-- The second tree has the code of each format in a file of its own, and every other file as the first one. -/
structure Saves (s : Schema) (pathOf : Format → String) (formats : List Format) (t t' : FileTree)
    (spot : Format → Path) : Prop where
  located : ∀ f ∈ formats, t'.locate (pathOf f) = .ok (.file (spot f) (s.generate f))
  code : ∀ f ∈ formats, t'.read (pathOf f) = .ok (s.generate f)
  distinct : ∀ f ∈ formats, ∀ g ∈ formats, spot f = spot g → f = g
  others : ∀ p, (∀ f ∈ formats, spot f ≠ p) → t'.file? p = t.file? p

section Writing

variable {pathOf : Format → String} {written : List Written} {formats : List Format} {spot : Format → Path}

lemma run_writeAll_cons (fs : FileSystem (StateM FileTree)) (f : Format) (rest : List Format) (t : FileTree) :
    (writeAll fs s pathOf written (f :: rest)).run t =
      match (fs.write (pathOf f) (s.generate f)).run t with
      | (.error e, t') => (.failed ⟨"failed to write " ++ pathOf f, [e.message]⟩ written, t')
      | (.ok (), t') =>
        (writeAll fs s pathOf (written ++ [⟨pathOf f, f, (s.generate f).utf8ByteSize⟩]) rest).run t' := by
  rw [writeAll, StateT.run_bind]
  rcases (fs.write (pathOf f) (s.generate f)).run t with ⟨_ | _, t'⟩ <;> rfl

lemma run_writeAll_ok (h : t.write (pathOf f) (s.generate f) = .ok t') (rest : List Format) :
    (writeAll FileTree.fileSystem s pathOf written (f :: rest)).run t =
      (writeAll FileTree.fileSystem s pathOf
        (written ++ [⟨pathOf f, f, (s.generate f).utf8ByteSize⟩]) rest).run t' := by
  have hwrite : (FileTree.fileSystem.write (pathOf f) (s.generate f)).run t = (.ok (), t') := by
    simp only [FileTree.fileSystem, StateT.run, h]
  rw [run_writeAll_cons, hwrite]

lemma run_writeAll_error {e : FileError} (h : t.write (pathOf f) (s.generate f) = .error e) (rest : List Format) :
    (writeAll FileTree.fileSystem s pathOf written (f :: rest)).run t =
      (.failed ⟨"failed to write " ++ pathOf f, [e.message]⟩ written, t) := by
  have hwrite : (FileTree.fileSystem.write (pathOf f) (s.generate f)).run t = (.error e, t) := by
    simp only [FileTree.fileSystem, StateT.run, h]
  rw [run_writeAll_cons, hwrite]

lemma output_writeAll (written : List Written) (formats : List Format) (t : FileTree) :
    ((writeAll FileTree.fileSystem s pathOf written formats).run t).1.output = "" := by
  induction formats generalizing written t with
  | nil => rfl
  | cons f rest ih =>
    cases hwrite : t.write (pathOf f) (s.generate f) with
    | error e => rw [run_writeAll_error hwrite, Outcome.failed]
    | ok t' =>
      rw [run_writeAll_ok hwrite]
      exact ih _ _

lemma accepts_of_writeAll (h : ((writeAll FileTree.fileSystem s pathOf written formats).run t).1.status = 0) :
    ∀ f ∈ formats, t.Accepts (pathOf f) := by
  induction formats generalizing written t with
  | nil => exact List.forall_mem_nil _
  | cons f rest ih =>
    cases hwrite : t.write (pathOf f) (s.generate f) with
    | error e =>
      rw [run_writeAll_error hwrite] at h
      cases h
    | ok t' =>
      rw [run_writeAll_ok hwrite] at h
      obtain ⟨p, hp, rfl⟩ := FileTree.exists_spot_of_write hwrite
      refine List.forall_mem_cons.mpr ⟨accepts_iff.mpr ⟨p, hp⟩, fun g hg => ?_⟩
      obtain ⟨q, hq⟩ := accepts_iff.mp (ih h g hg)
      exact accepts_iff.mpr ⟨q, hq.of_directories rfl⟩

lemma writeAll_spots (hspots : ∀ f ∈ formats, t.Spot (pathOf f) (spot f))
    (hdistinct : ∀ f ∈ formats, ∀ g ∈ formats, spot f = spot g → f = g) :
    let r := (writeAll FileTree.fileSystem s pathOf written formats).run t
    r.1.status = 0 ∧ r.2.directories = t.directories ∧ (∀ f ∈ formats, r.2.file? (spot f) = some (s.generate f)) ∧
      ∀ p, (∀ f ∈ formats, spot f ≠ p) → r.2.file? p = t.file? p := by
  induction formats generalizing written t with
  | nil => exact ⟨rfl, rfl, List.forall_mem_nil _, fun p _ => rfl⟩
  | cons f rest ih =>
    obtain ⟨hf, hrest⟩ := List.forall_mem_cons.mp hspots
    have hspots : ∀ g ∈ rest, (t.put (spot f) (s.generate f)).Spot (pathOf g) (spot g) :=
      fun g hg => (hrest g hg).of_directories rfl
    obtain ⟨hstatus, hdirectories, hcode, hothers⟩ :=
      ih hspots fun g hg g' hg' => hdistinct g (.tail f hg) g' (.tail f hg')
    dsimp only
    rw [run_writeAll_ok (hf.write _)]
    refine ⟨hstatus, hdirectories, List.forall_mem_cons.mpr ⟨?_, hcode⟩, fun p hp => ?_⟩
    · by_cases hmem : f ∈ rest
      · exact hcode f hmem
      · have hne : ∀ g ∈ rest, spot g ≠ spot f :=
          fun g hg heq => hmem (hdistinct g (.tail f hg) f List.mem_cons_self heq ▸ hg)
        exact (hothers _ hne).trans (FileTree.file?_put_self _ _ _)
    · obtain ⟨hpf, hp⟩ := List.forall_mem_cons.mp hp
      exact (hothers p hp).trans (FileTree.file?_put_of_ne _ hpf.symm _)

lemma saves_of_accepts (haccepts : ∀ f ∈ formats, t.Accepts (pathOf f))
    (hdistinct : ∀ f ∈ formats, ∀ g ∈ formats, ∀ p, t.Spot (pathOf f) p → t.Spot (pathOf g) p → f = g) :
    let r := (writeAll FileTree.fileSystem s pathOf written formats).run t
    r.1.status = 0 ∧ ∃ spot, Saves s pathOf formats t r.2 spot := by
  have hspot : ∀ f, ∃ p, f ∈ formats → t.Spot (pathOf f) p := by
    intro f
    by_cases hf : f ∈ formats
    · obtain ⟨p, hp⟩ := accepts_iff.mp (haccepts f hf)
      exact ⟨p, fun _ => hp⟩
    · exact ⟨[], fun h => absurd h hf⟩
  choose spot hspots using hspot
  have hinjective : ∀ f ∈ formats, ∀ g ∈ formats, spot f = spot g → f = g :=
    fun f hf g hg heq => hdistinct f hf g hg _ (hspots f hf) (heq ▸ hspots g hg)
  obtain ⟨hstatus, hdirectories, hcode, hothers⟩ := @writeAll_spots t s pathOf written formats spot hspots hinjective
  refine ⟨hstatus, spot, ?_, ?_, hinjective, hothers⟩
  · intro f hf
    have h := (hspots f hf).of_directories hdirectories
    rw [FileTree.locate, if_neg (Nat.not_lt.mpr h.length), h.leads.follow, FileTree.held, hcode f hf]
  · intro f hf
    exact ((hspots f hf).of_directories hdirectories).read (hcode f hf)

end Writing

namespace Destination

def formats (f : Format) : Destination → List Format
  | .standardOutput => []
  | .file _ => [f]
  | .directory _ => [f]
  | .everything _ => Format.all

def pathOf : Destination → Format → String
  | .standardOutput, _ => ""
  | .file path, _ => path
  | .directory path, f => inDirectory path f.fileName
  | .everything path, f => inDirectory path f.fileName

def prepare (t : FileTree) : Destination → Except FileError Unit × FileTree
  | .standardOutput => (.ok (), t)
  | .file _ => (.ok (), t)
  | .directory path => t.createDirectories path
  | .everything path => t.createDirectories path

def Writable (destination : Destination) (f : Format) (t : FileTree) : Prop :=
  ∃ t', destination.prepare t = (.ok (), t') ∧ ∀ g ∈ destination.formats f, t'.Accepts (destination.pathOf g)

def printed : Destination → String → String
  | .standardOutput, code => code
  | _, _ => ""

end Destination

/-- A run that comes to an end in `r` has taken the code to its destination, if that can be written. -/
structure Delivers (s : Schema) (f : Format) (destination : Destination) (t : FileTree) (r : Outcome × FileTree) :
    Prop where
  status : r.1.status = 0 ↔ destination.Writable f t
  output : r.1.status = 0 → r.1.output = destination.printed (s.generate f)
  files : r.1.status = 0 → ∃ spot, Saves s destination.pathOf (destination.formats f) t r.2 spot

lemma files_prepare (destination : Destination) (t : FileTree) : (destination.prepare t).2.files = t.files := by
  cases destination with
  | standardOutput => rfl
  | file path => rfl
  | directory directory => exact FileTree.files_createDirectories t directory
  | everything directory => exact FileTree.files_createDirectories t directory

lemma eq_of_spot {destination : Destination} {p : Path} {g h : Format} (hg : g ∈ destination.formats f)
    (hh : h ∈ destination.formats f) (hgp : t.Spot (destination.pathOf g) p) (hhp : t.Spot (destination.pathOf h) p) :
    g = h := by
  have hname : ∀ {directory}, t.Spot (inDirectory directory g.fileName) p →
      t.Spot (inDirectory directory h.fileName) p → g = h :=
    fun hg hh => Format.fileName_injective (Option.some.inj ((fileName_of_spot hg).symm.trans (fileName_of_spot hh)))
  cases destination with
  | standardOutput => cases hg
  | file path => exact (List.mem_singleton.mp hg).trans (List.mem_singleton.mp hh).symm
  | directory directory => exact hname hgp hhp
  | everything directory => exact hname hgp hhp

lemma delivers_of_prepare {destination : Destination} {failure : FileError → Failure}
    (hprinted : ∀ code, destination.printed code = "") :
    Delivers s f destination t (match destination.prepare t with
      | (.error e, t') => (.failed (failure e) [], t')
      | (.ok (), t') =>
        (writeAll FileTree.fileSystem s destination.pathOf [] (destination.formats f)).run t') := by
  have hfiles := files_prepare destination t
  rcases hprepare : destination.prepare t with ⟨e | _, t'⟩
  · have hfailed : ¬ (Outcome.failed (failure e) []).status = 0 := Nat.one_ne_zero
    refine ⟨⟨fun h => absurd h hfailed, ?_⟩, fun h => absurd h hfailed, fun h => absurd h hfailed⟩
    rintro ⟨t'', hprepare', -⟩
    cases hprepare.symm.trans hprepare'
  · rw [hprepare] at hfiles
    have hsaves := fun h => @saves_of_accepts t' s destination.pathOf [] (destination.formats f) h
      fun g hg h hh p hgp hhp => eq_of_spot hg hh hgp hhp
    refine ⟨⟨fun h => ⟨t', hprepare, accepts_of_writeAll h⟩, ?_⟩, fun _ => ?_, fun h => ?_⟩
    · rintro ⟨t'', hprepare', haccepts⟩
      cases hprepare.symm.trans hprepare'
      exact (hsaves haccepts).1
    · rw [hprinted]
      exact output_writeAll _ _ _
    · obtain ⟨-, spot, hlocated, hcode, hdistinct, hothers⟩ := hsaves (accepts_of_writeAll h)
      refine ⟨spot, hlocated, hcode, hdistinct, fun p hp => ?_⟩
      rw [hothers p hp, FileTree.file?, hfiles, FileTree.file?]

lemma run_writeInto (fs : FileSystem (StateM FileTree)) (directory : String) (formats : List Format) (t : FileTree) :
    (writeInto fs s directory formats).run t = match (fs.createDirectories directory).run t with
      | (.error e, t') => (.failed ⟨"failed to create " ++ directory, [e.message]⟩ [], t')
      | (.ok (), t') => (writeAll fs s (fun f => inDirectory directory f.fileName) [] formats).run t' := by
  rw [writeInto, StateT.run_bind]
  rcases (fs.createDirectories directory).run t with ⟨_ | _, t'⟩ <;> rfl

lemma delivers_standardOutput (s : Schema) (f : Format) (t : FileTree) :
    Delivers s f .standardOutput t ({ output := s.generate f }, t) := by
  refine ⟨?_, fun _ => rfl, fun _ => ⟨fun _ => [], ?_, ?_, ?_, fun _ _ => rfl⟩⟩
  · exact iff_of_true rfl ⟨t, rfl, List.forall_mem_nil _⟩
  · exact List.forall_mem_nil _
  · exact List.forall_mem_nil _
  · exact List.forall_mem_nil _

lemma ofString?_id (f : Format) : Format.ofString? f.id = some f := by
  cases f <;> decide +kernel

lemma delivers_deliver (f : Format) {c : Command} (t : FileTree)
    (h : c.format = f.id ∨ ∃ directory, c.destination = .everything directory) :
    Delivers s f c.destination t ((deliver FileTree.fileSystem s c).run t) := by
  obtain ⟨schema, format, destination⟩ := c
  cases destination with
  | everything directory =>
    simp only [deliver, run_writeInto]
    exact delivers_of_prepare fun _ => rfl
  | standardOutput =>
    obtain rfl : format = f.id := h.resolve_right fun ⟨_, h⟩ => nomatch h
    simp only [deliver, ofString?_id]
    exact delivers_standardOutput s f t
  | file path =>
    obtain rfl : format = f.id := h.resolve_right fun ⟨_, h⟩ => nomatch h
    simp only [deliver, ofString?_id]
    exact @delivers_of_prepare t s f (.file path) (fun e => ⟨path, []⟩) fun _ => rfl
  | directory directory =>
    obtain rfl : format = f.id := h.resolve_right fun ⟨_, h⟩ => nomatch h
    simp only [deliver, ofString?_id, run_writeInto]
    exact delivers_of_prepare fun _ => rfl

lemma run_load {fs : FileSystem (StateM FileTree)} (hread : (fs.read path).run t = (.ok text, t))
    (hs : Schema.ofText text = .ok s) : (load fs path).run t = (.ok s, t) := by
  rw [load, StateT.run_bind, hread]
  dsimp only [Bind.bind, Id.instMonad]
  rw [hs]
  rfl

lemma run_execute {c : Command} (hread : t.read c.schema = .ok text) (hs : Schema.ofText text = .ok s) :
    (execute FileTree.fileSystem c).run t = (deliver FileTree.fileSystem s c).run t := by
  have hstep : (FileTree.fileSystem.read c.schema).run t = (.ok text, t) := congrArg (·, t) hread
  rw [execute, StateT.run_bind, run_load hstep hs]
  rfl

theorem run_delivers (hread : t.read path = .ok text) (hs : Schema.ofText text = .ok s) (f : Format) :
    generateText text f.id = s.generate f ∧
      (∀ args format destination, parse args = some (.run ⟨path, format, destination⟩) →
        (format = f.id ∨ ∃ directory, destination = .everything directory) →
        Delivers s f destination t ((run FileTree.fileSystem args).run t)) ∧
      ∀ destination : Destination, isValue path = true → path ≠ "" → destination.Spellable →
        parse (path :: destination.arguments) = some (.run ⟨path, "prisma", destination⟩) ∧
          parse (path :: "-f" :: f.id :: destination.arguments) = some (.run ⟨path, f.id, destination⟩) := by
  refine ⟨?_, ?_, fun _ hvalue hpath h => parse_arguments hvalue hpath h f⟩
  · rw [generateText, Format.ofString, ofString?_id, hs]
    rfl
  · intro args format destination hparse hformat
    have hdelivers := delivers_deliver (s := s) (c := ⟨path, format, destination⟩) f t hformat
    rw [run, hparse]
    rwa [← run_execute (c := ⟨path, format, destination⟩) hread hs] at hdelivers

def blog : Schema where
  tables := [
    { id := "a", name := "User", columns := some [{ name := "id", type := .uuid, primary := true }] },
    { id := "b", name := "Post", columns := some [{ name := "id", type := .uuid, primary := true }] }]
  relationships := [{ source := "a", target := "b", declared := some .oneToMany }]

lemma ofText_blog : Schema.ofText blog.text = .ok blog := by
  have hkept : ColumnType.Kept .uuid := trivial
  have htable : ∀ id name, Table.Writable
      { id, name, columns := some [{ name := "id", type := .uuid, primary := true }] } := by
    intro id name
    refine ⟨rfl, rfl, ?_⟩
    rintro _ ⟨⟩ c hc
    obtain rfl := List.mem_singleton.mp hc
    exact hkept
  have hblog : blog.Writable := by
    simp [Schema.Writable, blog, htable]
  exact (Schema.read_of_documentText hblog (Schema.documentText_text blog)).1

theorem run_delivers_models :
    let t := FileTree.ofFiles [("models.js", blog.text)]
    let r := (run FileTree.fileSystem ["models.js", "--all", "."]).run t
    t.read "models.js" = .ok blog.text ∧ Schema.ofText blog.text = .ok blog ∧ r.1.status = 0 ∧
      Delivers blog .sql (.everything ".") t r := by
  have hread : (FileTree.ofFiles [("models.js", blog.text)]).read "models.js" = .ok blog.text := rfl
  have hdelivers := run_delivers hread ofText_blog .sql
  obtain ⟨hparse, -⟩ := hdelivers.2.2 (.everything ".") rfl (by decide) ⟨rfl, by decide⟩
  have hrun := hdelivers.2.1 _ _ _ hparse (.inr ⟨".", rfl⟩)
  have hwritable : Destination.Writable (.everything ".") .sql (FileTree.ofFiles [("models.js", blog.text)]) := by
    refine ⟨FileTree.ofFiles [("models.js", blog.text)], ?_, fun g _ contents => ?_⟩
    · rw [Destination.prepare, FileTree.createDirectories, if_neg (by decide)]
      rw [show (FileTree.components ".").reverse = ["."] from rfl, FileTree.ensureAll]
      rfl
    · cases g <;> exact ⟨_, rfl⟩
  exact ⟨hread, ofText_blog, hrun.status.mpr hwritable, hrun⟩

end SchemaCode.CommandLine
