import SchemaCode.CommandLine.Arguments
import SchemaCode.CommandLine.Files
import SchemaCode.Generate
import SchemaCode.LoadError
import SchemaCode.Schema.Document

namespace SchemaCode.CommandLine

structure Failure where
  context : String
  causes : List String := []

namespace Failure

def indent (first others cause : String) : String :=
  first ++ ("\n" ++ others).intercalate (cause.splitOn "\n") ++ "\n"

def report (f : Failure) : String :=
  let causes := match f.causes with
    | [] => ""
    | [cause] => "\nCaused by:\n" ++ indent "    " "    " cause
    | causes =>
      "\nCaused by:\n" ++ String.join (causes.zipIdx.map fun (cause, i) =>
        indent ("    " ++ toString i ++ ": ") "       " cause)
  "Error: " ++ f.context ++ "\n" ++ causes

end Failure

structure Written where
  path : String
  format : Format
  size : Nat

structure Outcome where
  status : Nat := 0
  output : String := ""
  written : List Written := []
  failure : Option Failure := none

namespace Outcome

def failed (f : Failure) (written : List Written) : Outcome where
  status := 1
  written := written
  failure := some f

def logLine (w : Written) : String :=
  "INFO schemagen: wrote generated code path=" ++ w.path ++ " format=" ++
    Text.quoted w.format.displayName ++ " bytes=" ++ toString w.size ++ "\n"

def errors (o : Outcome) (logging : Bool) : String :=
  let log := if logging then String.join (o.written.map logLine) else ""
  log ++ match o.failure with
    | some f => f.report
    | none => if o.status == 2 then usageText else ""

end Outcome

def loadFailure (path : String) (e : LoadError) : Failure :=
  ⟨"failed to load schema " ++ path, [e.message, e.reason]⟩

def unknownFormat (name : String) : Failure :=
  ⟨"unknown format '" ++ name ++ "' (expected one of: " ++
    ", ".intercalate (Format.all.map (·.displayName)) ++ ")", []⟩

def inDirectory (directory name : String) : String :=
  if FileTree.asksDirectory directory then directory ++ name else directory ++ "/" ++ name

variable {m : Type → Type} [Monad m]

def load (fs : FileSystem m) (path : String) : m (Except LoadError Schema) := do
  match ← fs.read path with
  | .error e => return .error (.unreadable path e.message)
  | .ok text =>
    match Schema.ofText text with
    | .error reason => return .error (.malformed reason)
    | .ok s => return .ok s

def writeAll (fs : FileSystem m) (s : Schema) (pathOf : Format → String) (written : List Written) :
    List Format → m Outcome
  | [] => return { written }
  | f :: rest => do
    let code := s.generate f
    let path := pathOf f
    match ← fs.write path code with
    | .error e => return .failed ⟨"failed to write " ++ path, [e.message]⟩ written
    | .ok () => writeAll fs s pathOf (written ++ [⟨path, f, code.utf8ByteSize⟩]) rest

def writeInto (fs : FileSystem m) (s : Schema) (directory : String) (formats : List Format) :
    m Outcome := do
  match ← fs.createDirectories directory with
  | .error e => return .failed ⟨"failed to create " ++ directory, [e.message]⟩ []
  | .ok () => writeAll fs s (fun f => inDirectory directory f.fileName) [] formats

def deliver (fs : FileSystem m) (s : Schema) (c : Command) : m Outcome :=
  match c.destination, Format.ofString? c.format with
  | .everything directory, _ => writeInto fs s directory Format.all
  | _, none => return .failed (unknownFormat c.format) []
  | .file path, some f => writeAll fs s (fun _ => path) [] [f]
  | .directory directory, some f => writeInto fs s directory [f]
  | .standardOutput, some f => return { output := s.generate f }

def execute (fs : FileSystem m) (c : Command) : m Outcome := do
  match ← load fs c.schema with
  | .error e => return .failed (loadFailure c.schema e) []
  | .ok s => deliver fs s c

def run (fs : FileSystem m) (args : List String) : m Outcome :=
  match parse args with
  | none => return { status := 2 }
  | some .version => return { output := versionText }
  | some .help => return { output := helpText }
  | some (.run c) => execute fs c

end SchemaCode.CommandLine
