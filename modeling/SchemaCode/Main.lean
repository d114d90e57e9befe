import SchemaCode.CommandLine.Run

namespace SchemaCode.CommandLine

def fileError : IO.Error → FileError
  | .noFileOrDirectory .. => .notFound
  | .alreadyExists .. => .exists
  | .inappropriateType _ 20 _ => .notDirectory
  | .inappropriateType _ 21 _ => .isDirectory
  | e => .other (toString e)

def attempt {α : Type} (action : IO α) : IO (Except FileError α) := do
  match ← action.toBaseIO with
  | .ok a => return .ok a
  | .error e => return .error (fileError e)

def machine : FileSystem IO where
  read path := do
    match ← attempt (IO.FS.readBinFile path) with
    | .error e => return .error e
    | .ok bytes =>
      match String.fromUTF8? bytes with
      | some text => return .ok text
      | none => return .error .notText
  createDirectories path := attempt (IO.FS.createDirAll path)
  write path contents := attempt (IO.FS.writeFile path contents)

end SchemaCode.CommandLine

open SchemaCode.CommandLine in
def main (args : List String) : IO UInt32 := do
  let outcome ← run machine args
  (← IO.getStdout).putStr outcome.output
  (← IO.getStderr).putStr (outcome.errors false)
  return outcome.status.toUInt32
