namespace SchemaCode

inductive LoadError where
  | unreadable (path reason : String)
  | malformed (reason : String)
  deriving DecidableEq

namespace LoadError

def message : LoadError → String
  | .unreadable path reason => "failed to read " ++ path ++ ": " ++ reason
  | .malformed reason => "invalid schema JSON: " ++ reason

def reason : LoadError → String
  | .unreadable _ reason => reason
  | .malformed reason => reason

end LoadError

end SchemaCode
