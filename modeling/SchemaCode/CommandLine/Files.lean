namespace SchemaCode.CommandLine

inductive FileError where
  | notFound
  | exists
  | notDirectory
  | isDirectory
  | nameTooLong
  | notText
  | other (text : String)
  deriving DecidableEq

def FileError.message : FileError → String
  | .notFound => "No such file or directory (os error 2)"
  | .exists => "File exists (os error 17)"
  | .notDirectory => "Not a directory (os error 20)"
  | .isDirectory => "Is a directory (os error 21)"
  | .nameTooLong => "File name too long (os error 36)"
  | .notText => "stream did not contain valid UTF-8"
  | .other text => text

structure FileSystem (m : Type → Type) where
  read : String → m (Except FileError String)
  createDirectories : String → m (Except FileError Unit)
  write : (path contents : String) → m (Except FileError Unit)

abbrev Path := List String

/-- Files and directories by the components that lead to them from the root. -/
structure FileTree where
  files : List (Path × String) := []
  directories : List Path := []
  deriving DecidableEq

namespace FileTree

/-- The directory where relative paths start. It lies in the root, under a name that cannot be
written. -/
def home : Path := [""]

def isDirectory (t : FileTree) (p : Path) : Bool :=
  p.isEmpty || p == home || t.directories.contains p

def file? (t : FileTree) (p : Path) : Option String := (t.files.find? (·.1 == p)).map (·.2)

inductive Place where
  | directory (path : Path)
  | file (path : Path) (contents : String)
  | vacant (path : Path)

def longestName : Nat := 255

def longestPath : Nat := 4095

def follow (t : FileTree) : (current : Path) → Path → Except FileError Place
  | current, [] => .ok (.directory current)
  | current, "." :: rest => t.follow current rest
  | current, ".." :: rest => t.follow current.dropLast rest
  | current, name :: rest =>
    let path := current ++ [name]
    if name.utf8ByteSize > longestName then .error .nameTooLong
    else if t.isDirectory path then t.follow path rest
    else match t.file? path, rest with
      | some contents, [] => .ok (.file path contents)
      | some _, _ :: _ => .error .notDirectory
      | none, [] => .ok (.vacant path)
      | none, _ :: _ => .error .notFound

def components (path : String) : Path :=
  ((path.toList.splitOn '/').map String.ofList).filter (· != "")

def start (path : String) : Path := if path.toList.head? == some '/' then [] else home

def asksDirectory (path : String) : Bool := path.toList.getLast? == some '/'

def locate (t : FileTree) (path : String) : Except FileError Place :=
  if path.utf8ByteSize > longestPath then .error .nameTooLong
  else t.follow (start path) (components path)

def read (t : FileTree) (path : String) : Except FileError String :=
  match t.locate path with
  | .error e => .error e
  | .ok (.directory _) => .error .isDirectory
  | .ok (.vacant _) => .error .notFound
  | .ok (.file _ contents) => if asksDirectory path then .error .notDirectory else .ok contents

def putFile (p : Path) (contents : String) : List (Path × String) → List (Path × String)
  | [] => [(p, contents)]
  | f :: rest => if f.1 == p then (p, contents) :: rest else f :: putFile p contents rest

def put (t : FileTree) (p : Path) (contents : String) : FileTree :=
  { t with files := putFile p contents t.files }

theorem find?_putFile_self (p : Path) (contents : String) (files : List (Path × String)) :
    (putFile p contents files).find? (·.1 == p) = some (p, contents) := by
  induction files with
  | nil => simp [putFile]
  | cons f rest ih => by_cases hf : f.1 = p <;> simp [putFile, hf, ih]

theorem find?_putFile_of_ne {p q : Path} (h : q ≠ p) (contents : String)
    (files : List (Path × String)) :
    (putFile p contents files).find? (·.1 == q) = files.find? (·.1 == q) := by
  have hp : (p == q) = false := beq_false_of_ne h.symm
  induction files with
  | nil => simp [putFile, hp]
  | cons f rest ih =>
    rw [putFile]
    split
    · next hf => rw [List.find?_cons, List.find?_cons, eq_of_beq hf, hp]
    · rw [List.find?_cons, List.find?_cons, ih]

theorem file?_put_self (t : FileTree) (p : Path) (contents : String) :
    (t.put p contents).file? p = some contents := by
  simp [put, file?, find?_putFile_self]

theorem file?_put_of_ne (t : FileTree) {p q : Path} (h : q ≠ p) (contents : String) :
    (t.put p contents).file? q = t.file? q := by
  simp only [put, file?, find?_putFile_of_ne h]

def write (t : FileTree) (path contents : String) : Except FileError FileTree :=
  if path.utf8ByteSize > longestPath then .error .nameTooLong
  else if asksDirectory path then
    match t.follow (start path) (components path).dropLast with
    | .error e => .error e
    | .ok (.directory _) => .error .isDirectory
    | .ok (.vacant _) => .error .notFound
    | .ok (.file _ _) => .error .notDirectory
  else
    match t.follow (start path) (components path) with
    | .error e => .error e
    | .ok (.directory _) => .error .isDirectory
    | .ok (.vacant p) => .ok (t.put p contents)
    | .ok (.file p _) => .ok (t.put p contents)

def createDirectory (t : FileTree) (base names : Path) : Except FileError FileTree :=
  match t.follow base names with
  | .error e => .error e
  | .ok (.vacant p) => .ok { t with directories := t.directories ++ [p] }
  | .ok _ => .error .exists

def leadsToDirectory (t : FileTree) (base names : Path) : Bool :=
  match t.follow base names with
  | .ok (.directory _) => true
  | _ => false

def ensureDirectory (t : FileTree) (base names : Path) : Except FileError Unit × FileTree :=
  match t.createDirectory base names with
  | .ok t => (.ok (), t)
  | .error e => if t.leadsToDirectory base names then (.ok (), t) else (.error e, t)

/-- The path to the directory around, both written backwards. Dots at the end of a path name nothing
of their own. -/
def around (backwards : Path) : Path :=
  ((backwards.dropWhile (· == ".")).drop 1).dropWhile (· == ".")

theorem length_around_lt {backwards : Path} (h : backwards ≠ []) :
    (around backwards).length < backwards.length := by
  have hdots := (List.dropWhile_sublist (· == ".") (l := backwards)).length_le
  have hrest := (List.dropWhile_sublist (· == ".")
    (l := (backwards.dropWhile (· == ".")).drop 1)).length_le
  have hpos := List.length_pos_iff.mpr h
  rw [List.length_drop] at hrest
  unfold around
  omega

/-- Makes the directory at a path that is written backwards. If it cannot be made since something on
the way is missing, the directory around it is made first. -/
def ensureAll (t : FileTree) (base : Path) : (backwards : Path) → Except FileError Unit × FileTree
  | [] => (.ok (), t)
  | name :: rest =>
    match t.ensureDirectory base (name :: rest).reverse with
    | (.error .notFound, _) =>
      match t.ensureAll base (around (name :: rest)) with
      | (.ok (), t) => t.ensureDirectory base (name :: rest).reverse
      | failure => failure
    | outcome => outcome
termination_by backwards => backwards.length
decreasing_by exact length_around_lt (List.cons_ne_nil name rest)

def createDirectories (t : FileTree) (path : String) : Except FileError Unit × FileTree :=
  if path.utf8ByteSize > longestPath then (.error .nameTooLong, t)
  else t.ensureAll (start path) (components path).reverse

def ofFiles (files : List (String × String)) : FileTree where
  files := files.map fun f => (home ++ components f.1, f.2)
  directories := files.flatMap fun f =>
    let p := components f.1
    ((List.range p.length).drop 1).map fun n => home ++ p.take n

def changes (t before : FileTree) : List (String × String) :=
  (t.files.filter fun f => home.isPrefixOf f.1 && before.file? f.1 != some f.2).map fun f =>
    ("/".intercalate (f.1.drop home.length), f.2)

def fileSystem : FileSystem (StateM FileTree) where
  read path t := (t.read path, t)
  createDirectories path t := t.createDirectories path
  write path contents t :=
    match t.write path contents with
    | .ok t => (.ok (), t)
    | .error e => (.error e, t)

end FileTree

end SchemaCode.CommandLine
