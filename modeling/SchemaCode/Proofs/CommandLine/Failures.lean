import SchemaCode.Proofs.CommandLine.Delivery

/-! A command line that fails leaves no more behind than it had written until then. -/

namespace SchemaCode.CommandLine

open FileTree (Spot)

namespace FileTree

inductive Access where
  | read (path : String)
  | createDirectories (path : String)
  | write (path contents : String)

/-- The operations on a tree, some of which are refused before they begin, as on what belongs to somebody else. -/
def restricted (refuses : FileTree → Access → Option FileError) : FileSystem (StateM FileTree) where
  read path t :=
    match refuses t (.read path) with
    | some e => (.error e, t)
    | none => fileSystem.read path t
  createDirectories path t :=
    match refuses t (.createDirectories path) with
    | some e => (.error e, t)
    | none => fileSystem.createDirectories path t
  write path contents t :=
    match refuses t (.write path contents) with
    | some e => (.error e, t)
    | none => fileSystem.write path contents t

example : restricted (fun _ _ => none) = fileSystem := rfl

end FileTree

section Operations

variable {refuses : FileTree → FileTree.Access → Option FileError} {t t' : FileTree} {path contents : String}

lemma restricted_read (path : String) (t : FileTree) :
    (((FileTree.restricted refuses).read path).run t).2 = t := by
  simp only [FileTree.restricted, StateT.run]
  split <;> rfl

lemma files_restricted_createDirectories (path : String) (t : FileTree) :
    (((FileTree.restricted refuses).createDirectories path).run t).2.files = t.files := by
  simp only [FileTree.restricted, StateT.run]
  split
  · rfl
  · exact FileTree.files_createDirectories t path

lemma write_of_restricted (h : ((FileTree.restricted refuses).write path contents).run t = (.ok (), t')) :
    (FileTree.fileSystem.write path contents).run t = (.ok (), t') := by
  simp only [FileTree.restricted, StateT.run] at h
  split at h
  · cases h
  · exact h

lemma restricted_write_error {e : FileError}
    (h : ((FileTree.restricted refuses).write path contents).run t = (.error e, t')) : t' = t := by
  simp only [FileTree.restricted, FileTree.fileSystem, StateT.run] at h
  split at h
  · exact (congrArg Prod.snd h).symm
  · split at h <;> cases h
    rfl

end Operations

section Writing

variable {refuses : FileTree → FileTree.Access → Option FileError} {s : Schema} {pathOf : Format → String}
  {written : List Written} {formats : List Format} {t t' : FileTree}

structure Stops (fs : FileSystem (StateM FileTree)) (s : Schema) (pathOf : Format → String) (written : List Written)
    (before : List Format) (f : Format) (t : FileTree) (r : Outcome × FileTree) : Prop where
  refused : ∃ e : FileError, (fs.write (pathOf f) (s.generate f)).run r.2 = (.error e, r.2) ∧
    r.1 = .failed ⟨"failed to write " ++ pathOf f, [e.message]⟩
      (written ++ before.map fun g => ⟨pathOf g, g, (s.generate g).utf8ByteSize⟩)
  before : ∃ o, (writeAll FileTree.fileSystem s pathOf written before).run t = (o, r.2) ∧ o.status = 0

lemma writeAll_stops {r : Outcome × FileTree}
    (hrun : (writeAll (FileTree.restricted refuses) s pathOf written formats).run t = r) (h : r.1.status ≠ 0) :
    ∃ before f rest, formats = before ++ f :: rest ∧
      Stops (FileTree.restricted refuses) s pathOf written before f t r := by
  induction formats generalizing written t with
  | nil =>
    cases hrun
    exact absurd rfl h
  | cons f rest ih =>
    rw [run_writeAll_cons] at hrun
    rcases hwrite : ((FileTree.restricted refuses).write (pathOf f) (s.generate f)).run t with ⟨e | _, t'⟩
    · obtain rfl := restricted_write_error hwrite
      rw [hwrite] at hrun
      cases hrun
      exact ⟨[], f, rest, rfl, ⟨e, hwrite, by rw [List.map_nil, List.append_nil]⟩, _, rfl, rfl⟩
    · rw [hwrite] at hrun
      obtain ⟨before, g, rest', rfl, ⟨e, hrefused, houtcome⟩, o, hbefore, hstatus⟩ := ih hrun
      rw [List.append_assoc, List.singleton_append] at houtcome
      refine ⟨f :: before, g, rest', rfl, ⟨e, hrefused, houtcome⟩, o, ?_, hstatus⟩
      rw [run_writeAll_cons, write_of_restricted hwrite]
      exact hbefore

lemma Stops.output {fs : FileSystem (StateM FileTree)} {before : List Format} {f : Format} {r : Outcome × FileTree}
    (h : Stops fs s pathOf written before f t r) : r.1.output = "" := by
  obtain ⟨e, -, houtcome⟩ := h.refused
  rw [houtcome, Outcome.failed]

lemma output_restricted_writeAll
    (h : ((writeAll (FileTree.restricted refuses) s pathOf written formats).run t).1.status ≠ 0) :
    ((writeAll (FileTree.restricted refuses) s pathOf written formats).run t).1.output = "" := by
  obtain ⟨before, f, rest, -, hstops⟩ := writeAll_stops rfl h
  exact hstops.output

lemma writeAll_singleton {f : Format}
    (h : ((writeAll (FileTree.restricted refuses) s pathOf written [f]).run t).1.status ≠ 0) :
    ((writeAll (FileTree.restricted refuses) s pathOf written [f]).run t).2 = t := by
  obtain ⟨before, g, rest, hsplit, -, o, hbefore, -⟩ := writeAll_stops rfl h
  obtain ⟨rfl, -⟩ := (List.append_eq_singleton_iff.mp hsplit.symm).resolve_right fun h =>
    List.cons_ne_nil g rest h.2
  exact (congrArg Prod.snd hbefore).symm

end Writing

section Everything

variable {s : Schema} {pathOf : Format → String} {formats : List Format} {spot : Format → Path} {t t' : FileTree}
  {f : Format}

lemma Saves.spot_mem (h : Saves s pathOf formats t t' spot) (hf : f ∈ formats) : t'.Spot (pathOf f) (spot f) := by
  have hlocated := h.located f hf
  have hcode := h.code f hf
  have hlength : ¬ (pathOf f).utf8ByteSize > FileTree.longestPath := by
    intro hlength
    rw [FileTree.locate, if_pos hlength] at hlocated
    cases hlocated
  refine ⟨Nat.not_lt.mp hlength, Bool.eq_false_iff.mpr fun hasks => ?_, ?_⟩
  · rw [FileTree.read, hlocated, hasks] at hcode
    cases hcode
  · rw [FileTree.locate, if_neg hlength] at hlocated
    rcases FileTree.of_follow hlocated with ⟨d, hplace⟩ | ⟨p, hplace, hleads⟩
    · cases hplace
    · rw [FileTree.held] at hplace
      cases hfile : t'.file? p with
      | none =>
        rw [hfile] at hplace
        cases hplace
      | some contents =>
        rw [hfile] at hplace
        cases hplace
        exact hleads

/-- The run has written the formats before `f`, each of them into its file. It could not write `f`, and it has not
written anything else. -/
structure LeavesOff (fs : FileSystem (StateM FileTree)) (s : Schema) (pathOf : Format → String)
    (before : List Format) (f : Format) (rest : List Format) (t : FileTree) (r : Outcome × FileTree) : Prop where
  refused : ∃ e : FileError, (fs.write (pathOf f) (s.generate f)).run r.2 = (.error e, r.2) ∧
    r.1 = .failed ⟨"failed to write " ++ pathOf f, [e.message]⟩
      (before.map fun g => ⟨pathOf g, g, (s.generate g).utf8ByteSize⟩)
  saved : ∃ spot, Saves s pathOf before t r.2 spot
  untouched : ∀ g ∈ f :: rest, ∀ p, r.2.Spot (pathOf g) p → r.2.file? p = t.file? p

lemma Saves.of_files (h : Saves s pathOf formats t t' spot) {t₀ : FileTree} (hfiles : t.files = t₀.files) :
    Saves s pathOf formats t₀ t' spot :=
  ⟨h.located, h.code, h.distinct, fun p hp => by rw [h.others p hp, FileTree.file?, hfiles, FileTree.file?]⟩

lemma LeavesOff.of_files {fs : FileSystem (StateM FileTree)} {before rest : List Format} {r : Outcome × FileTree}
    (h : LeavesOff fs s pathOf before f rest t r) {t₀ : FileTree} (hfiles : t.files = t₀.files) :
    LeavesOff fs s pathOf before f rest t₀ r := by
  obtain ⟨spot, hsaves⟩ := h.saved
  refine ⟨h.refused, ⟨spot, hsaves.of_files hfiles⟩, fun g hg p hp => ?_⟩
  rw [h.untouched g hg p hp, FileTree.file?, hfiles, FileTree.file?]

lemma nodup_all : Format.all.Nodup := by
  decide

lemma leavesOff_of_stops {fs : FileSystem (StateM FileTree)} {before rest : List Format} {r : Outcome × FileTree}
    {directory : String} (hsplit : Format.all = before ++ f :: rest)
    (h : Stops fs s (Destination.everything directory).pathOf [] before f t r) :
    LeavesOff fs s (Destination.everything directory).pathOf before f rest t r := by
  have hinjective : ∀ {t : FileTree} {g h p}, t.Spot ((Destination.everything directory).pathOf g) p →
      t.Spot ((Destination.everything directory).pathOf h) p → g = h :=
    fun {t g h p} => @eq_of_spot t f (.everything directory) p g h (Format.mem_all g) (Format.mem_all h)
  obtain ⟨o, hbefore, hstatus⟩ := h.before
  replace hstatus : ((writeAll FileTree.fileSystem s (Destination.everything directory).pathOf [] before).run
      t).1.status = 0 := by
    rw [hbefore]
    exact hstatus
  obtain ⟨-, spot, hsaves⟩ := @saves_of_accepts t s (Destination.everything directory).pathOf [] before
    (accepts_of_writeAll hstatus) fun g _ h _ p hg hh => hinjective hg hh
  rw [hbefore] at hsaves
  refine ⟨h.refused, ⟨spot, hsaves⟩, fun g hg p hp => hsaves.others p ?_⟩
  -- the formats have files of their own, so none that was written is that of `g`
  rintro k hk rfl
  obtain rfl := hinjective (hsaves.spot_mem hk) hp
  exact (List.nodup_append.mp (hsplit ▸ nodup_all)).2.2 k hk k hg rfl

end Everything

section Runs

variable {refuses : FileTree → FileTree.Access → Option FileError} {s : Schema} {t : FileTree} {path : String}

def Loads (fs : FileSystem (StateM FileTree)) (t : FileTree) (path : String) (s : Schema) : Prop :=
  ∃ text, ((fs.read path).run t).1 = .ok text ∧ Schema.ofText text = .ok s

lemma Loads.unique {fs : FileSystem (StateM FileTree)} {s' : Schema} (h : Loads fs t path s) (h' : Loads fs t path s') :
    s = s' := by
  obtain ⟨text, htext, hs⟩ := h
  obtain ⟨text', htext', hs'⟩ := h'
  cases htext.symm.trans htext'
  exact Except.ok.inj (hs.symm.trans hs')

lemma run_restricted_load_ok (h : Loads (FileTree.restricted refuses) t path s) :
    (load (FileTree.restricted refuses) path).run t = (.ok s, t) := by
  obtain ⟨text, htext, hs⟩ := h
  exact run_load (Prod.ext htext (restricted_read path t)) hs

lemma run_restricted_load_error (h : ∀ s, ¬ Loads (FileTree.restricted refuses) t path s) :
    ∃ e, (load (FileTree.restricted refuses) path).run t = (.error e, t) := by
  have hleft := @restricted_read refuses path t
  rw [load, StateT.run_bind]
  rcases hread : ((FileTree.restricted refuses).read path).run t with ⟨e | text, t'⟩
  · obtain rfl : t' = t := (congrArg Prod.snd hread).symm.trans hleft
    exact ⟨_, rfl⟩
  · obtain rfl : t' = t := (congrArg Prod.snd hread).symm.trans hleft
    cases hs : Schema.ofText text with
    | error reason =>
      refine ⟨.malformed reason, ?_⟩
      dsimp only [Bind.bind, Id.instMonad]
      rw [hs]
      rfl
    | ok s => exact absurd ⟨text, congrArg Prod.fst hread, hs⟩ (h s)

/-- How a command comes to nothing. Where it stops before it writes, everything is left as it was. -/
structure FailsCleanly (fs : FileSystem (StateM FileTree)) (c : Command) (t : FileTree) (r : Outcome × FileTree) :
    Prop where
  silent : r.1.status ≠ 0 → r.1.output = ""
  unread : (∀ s, ¬ Loads fs t c.schema s) → r.1.status = 1 ∧ r.2 = t
  unformatted : (∀ directory, c.destination ≠ .everything directory) → Format.ofString? c.format = none →
    r.1.status = 1 ∧ r.2 = t
  unmade : ∀ directory e, c.destination = .directory directory ∨ c.destination = .everything directory →
    ((fs.createDirectories directory).run t).1 = .error e → r.1.status = 1 ∧ r.2.files = t.files
  unwritten : (∀ directory, c.destination ≠ .everything directory) → r.1.status ≠ 0 → r.2.files = t.files
  interrupted : ∀ directory s, c.destination = .everything directory → Loads fs t c.schema s →
    ((fs.createDirectories directory).run t).1 = .ok () → r.1.status ≠ 0 →
      ∃ before f rest, Format.all = before ++ f :: rest ∧ LeavesOff fs s c.destination.pathOf before f rest t r

lemma failsCleanly_failed {fs : FileSystem (StateM FileTree)} {c : Command} (failure : Failure)
    (h : (∀ s, ¬ Loads fs t c.schema s) ∨ ∀ directory, c.destination ≠ .everything directory) :
    FailsCleanly fs c t (.failed failure [], t) := by
  refine ⟨fun _ => rfl, fun _ => ⟨rfl, rfl⟩, fun _ _ => ⟨rfl, rfl⟩, fun _ _ _ _ => ⟨rfl, rfl⟩, fun _ _ => rfl, ?_⟩
  intro directory s hdestination hs
  rcases h with h | h
  · exact absurd hs (h s)
  · exact absurd hdestination (h directory)

lemma failsCleanly_single {fs : FileSystem (StateM FileTree)} {c : Command} {f : Format} {r : Outcome × FileTree}
    (hs : Loads fs t c.schema s) (hformat : Format.ofString? c.format = some f)
    (hdestination : ∀ directory, c.destination ≠ .everything directory)
    (hsilent : r.1.status ≠ 0 → r.1.output = "") (hfiles : r.1.status ≠ 0 → r.2.files = t.files)
    (hunmade : ∀ directory e, c.destination = .directory directory →
      ((fs.createDirectories directory).run t).1 = .error e → r.1.status = 1) :
    FailsCleanly fs c t r := by
  refine ⟨hsilent, fun h => absurd hs (h s), fun _ h => ?_, fun directory e h herror => ?_, fun _ => hfiles, ?_⟩
  · cases hformat.symm.trans h
  · have hstatus := hunmade directory e (h.resolve_right (hdestination directory)) herror
    exact ⟨hstatus, hfiles (ne_of_eq_of_ne hstatus Nat.one_ne_zero)⟩
  · intro directory s' h
    exact absurd h (hdestination directory)

lemma failsCleanly_directory {c : Command} {directory : String} {f : Format}
    (hs : Loads (FileTree.restricted refuses) t c.schema s) (hformat : Format.ofString? c.format = some f)
    (hdestination : c.destination = .directory directory) :
    FailsCleanly (FileTree.restricted refuses) c t
      ((writeInto (FileTree.restricted refuses) s directory [f]).run t) := by
  have hfiles := @files_restricted_createDirectories refuses directory t
  have hother : ∀ directory', c.destination ≠ .everything directory' := by
    intro directory' h
    cases hdestination.symm.trans h
  rw [run_writeInto]
  rcases hcreate : ((FileTree.restricted refuses).createDirectories directory).run t with ⟨e | _, t'⟩
  · rw [hcreate] at hfiles
    exact failsCleanly_single hs hformat hother (fun _ => rfl) (fun _ => hfiles) fun _ _ _ _ => rfl
  · rw [hcreate] at hfiles
    refine failsCleanly_single hs hformat hother output_restricted_writeAll (fun hstatus => ?_) ?_
    · rw [writeAll_singleton hstatus, hfiles]
    · intro directory' e h herror
      cases hdestination.symm.trans h
      cases (congrArg Prod.fst hcreate).symm.trans herror

lemma failsCleanly_everything {c : Command} {directory : String}
    (hs : Loads (FileTree.restricted refuses) t c.schema s) (hdestination : c.destination = .everything directory) :
    FailsCleanly (FileTree.restricted refuses) c t
      ((writeInto (FileTree.restricted refuses) s directory Format.all).run t) := by
  have hfiles := @files_restricted_createDirectories refuses directory t
  rw [run_writeInto]
  rcases hcreate : ((FileTree.restricted refuses).createDirectories directory).run t with ⟨e | _, t'⟩
  · rw [hcreate] at hfiles
    refine ⟨fun _ => rfl, fun h => absurd hs (h s), fun h => absurd hdestination (h _),
      fun _ _ _ _ => ⟨rfl, hfiles⟩, fun h => absurd hdestination (h _), ?_⟩
    intro directory' s' h _ hok
    cases hdestination.symm.trans h
    cases (congrArg Prod.fst hcreate).symm.trans hok
  · rw [hcreate] at hfiles
    refine ⟨output_restricted_writeAll, fun h => absurd hs (h s), fun h => absurd hdestination (h _), ?_,
      fun h => absurd hdestination (h _), ?_⟩
    · rintro directory' e (h | h) herror
      · cases hdestination.symm.trans h
      · cases hdestination.symm.trans h
        cases (congrArg Prod.fst hcreate).symm.trans herror
    · intro directory' s' h hs' _ hstatus
      obtain rfl := hs.unique hs'
      obtain ⟨before, f, rest, hsplit, hstops⟩ := writeAll_stops rfl hstatus
      rw [hdestination]
      exact ⟨before, f, rest, hsplit, (leavesOff_of_stops hsplit hstops).of_files hfiles⟩

lemma failsCleanly_deliver {c : Command} (hs : Loads (FileTree.restricted refuses) t c.schema s) :
    FailsCleanly (FileTree.restricted refuses) c t ((deliver (FileTree.restricted refuses) s c).run t) := by
  obtain ⟨schema, format, destination⟩ := c
  cases destination with
  | everything directory =>
    simp only [deliver]
    exact failsCleanly_everything hs rfl
  | standardOutput =>
    have hother : ∀ directory, Destination.standardOutput ≠ .everything directory :=
      fun _ h => Destination.noConfusion h
    cases hformat : Format.ofString? format with
    | none =>
      simp only [deliver, hformat]
      exact failsCleanly_failed _ (.inr hother)
    | some f =>
      simp only [deliver, hformat]
      refine failsCleanly_single hs hformat hother (absurd rfl) (fun _ => rfl) ?_
      exact fun _ _ h => Destination.noConfusion h
  | file path =>
    have hother : ∀ directory, Destination.file path ≠ .everything directory := fun _ h => Destination.noConfusion h
    cases hformat : Format.ofString? format with
    | none =>
      simp only [deliver, hformat]
      exact failsCleanly_failed _ (.inr hother)
    | some f =>
      simp only [deliver, hformat]
      refine failsCleanly_single hs hformat hother output_restricted_writeAll (fun h => ?_) ?_
      · rw [writeAll_singleton h]
      · exact fun _ _ h => Destination.noConfusion h
  | directory directory =>
    cases hformat : Format.ofString? format with
    | none =>
      simp only [deliver, hformat]
      exact failsCleanly_failed _ (.inr fun _ h => Destination.noConfusion h)
    | some f =>
      simp only [deliver, hformat]
      exact failsCleanly_directory hs hformat rfl

lemma failsCleanly_execute (refuses : FileTree → FileTree.Access → Option FileError) (c : Command) (t : FileTree) :
    FailsCleanly (FileTree.restricted refuses) c t ((execute (FileTree.restricted refuses) c).run t) := by
  rw [execute, StateT.run_bind]
  by_cases h : ∃ s, Loads (FileTree.restricted refuses) t c.schema s
  · obtain ⟨s, hs⟩ := h
    rw [run_restricted_load_ok hs]
    exact failsCleanly_deliver hs
  · obtain ⟨e, he⟩ := run_restricted_load_error (not_exists.mp h)
    rw [he]
    exact failsCleanly_failed _ (.inl (not_exists.mp h))

example :
    let fs := FileTree.restricted fun _ access => match access with
      | .write "out/models.js" _ => some (.other "Permission denied (os error 13)")
      | _ => none
    let r := (run fs ["schema.json", "--all", "out"]).run (FileTree.ofFiles [("schema.json", "[]")])
    r.1.status = 1 ∧
      r.2.files.map (·.1.drop 1) = [["schema.json"], ["out", "schema.prisma"], ["out", "schema.sql"]] := by
  decide +kernel

end Runs

end SchemaCode.CommandLine
