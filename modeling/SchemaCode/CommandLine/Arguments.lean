/-! Arguments are taken from left to right, and the first one that cannot be taken decides. Whether the options go
together is looked at in the end. -/

namespace SchemaCode.CommandLine

inductive Destination where
  | standardOutput
  | file (path : String)
  | directory (path : String)
  | everything (path : String)
  deriving DecidableEq

structure Command where
  schema : String
  format : String
  destination : Destination
  deriving DecidableEq

inductive Request where
  | version
  | help
  | run (command : Command)
  deriving DecidableEq

inductive OptionName where
  | format
  | output
  | download
  | all
  deriving DecidableEq

namespace OptionName

def ofLong? : String → Option OptionName
  | "format" => some .format
  | "output" => some .output
  | "download" => some .download
  | "all" => some .all
  | _ => none

def ofShort? : Char → Option OptionName
  | 'f' => some .format
  | 'o' => some .output
  | _ => none

def isPath : OptionName → Bool
  | .format => false
  | _ => true

end OptionName

inductive Token where
  | separator
  | long (name : String) (value : Option String)
  | short (letters : List Char)
  | word (text : String)

def Token.ofString (s : String) : Token :=
  match s.toList with
  | ['-', '-'] => .separator
  | '-' :: '-' :: rest =>
    let name := String.ofList (rest.takeWhile (· != '='))
    match rest.dropWhile (· != '=') with
    | [] => .long name none
    | _ :: value => .long name (some (String.ofList value))
  | ['-'] => .word s
  | '-' :: rest => .short rest
  | _ => .word s

structure Given where
  schema : Option String := none
  format : Option String := none
  output : Option String := none
  download : Option String := none
  all : Option String := none

namespace Given

def get (g : Given) : OptionName → Option String
  | .format => g.format
  | .output => g.output
  | .download => g.download
  | .all => g.all

def set (g : Given) (o : OptionName) (value : String) : Given :=
  match o with
  | .format => { g with format := some value }
  | .output => { g with output := some value }
  | .download => { g with download := some value }
  | .all => { g with all := some value }

def option? (g : Given) (o : OptionName) (value : String) : Option Given :=
  if (g.get o).isSome || (o.isPath && value == "") then none else some (g.set o value)

def word? (g : Given) (text : String) : Option Given :=
  if g.schema.isSome || text == "" then none else some { g with schema := some text }

def command? (g : Given) : Option Command :=
  match g.schema with
  | none => none
  | some schema =>
    let format := g.format.getD "prisma"
    match g.output, g.download, g.all with
    | none, none, none => some ⟨schema, format, .standardOutput⟩
    | some path, none, none => some ⟨schema, format, .file path⟩
    | none, some path, none => some ⟨schema, format, .directory path⟩
    | none, none, some path => some ⟨schema, format, .everything path⟩
    | _, _, _ => none

end Given

def parseWords : Given → List String → Option Request
  | g, [] => g.command?.map .run
  | g, arg :: rest =>
    match g.word? arg with
    | some g => parseWords g rest
    | none => none

def isValue (s : String) : Bool :=
  match Token.ofString s with
  | .word _ => true
  | _ => false

def attached? : List Char → Option String
  | [] => none
  | '=' :: value => some (String.ofList value)
  | value => some (String.ofList value)

def parseFrom (g : Given) : List String → Option Request
  | [] => g.command?.map .run
  | arg :: rest =>
    /- An option, and its value if that is in the same argument. -/
    let option (o : OptionName) (value : Option String) : Option Request :=
      match value with
      | some v =>
        match g.option? o v with
        | some g => parseFrom g rest
        | none => none
      | none =>
        match rest with
        | [] => none
        | v :: rest =>
          if isValue v then
            match g.option? o v with
            | some g => parseFrom g rest
            | none => none
          else none
    match Token.ofString arg with
    | .separator => parseWords g rest
    | .word text =>
      match g.word? text with
      | some g => parseFrom g rest
      | none => none
    | .long "version" none => some .version
    | .long "help" none => some .help
    | .long name value =>
      match OptionName.ofLong? name with
      | some o => option o value
      | none => none
    | .short [] => none
    | .short ('V' :: _) => some .version
    | .short ('h' :: _) => some .help
    | .short (letter :: value) =>
      match OptionName.ofShort? letter with
      | some o => option o (attached? value)
      | none => none

def parse (args : List String) : Option Request := parseFrom {} args

def versionText : String := "schemagen 0.1.0\n"

def usageText : String := "Usage: schemagen [OPTIONS] <SCHEMA>\n"

def helpText : String :=
  "Schema-to-code generator - turn a table/relationship diagram into Prisma, SQL, ORM models, " ++
  "DBML or TypeScript\n" ++
  "\n" ++ usageText ++ "\n" ++
  "Arguments:\n" ++
  "  <SCHEMA>  Schema snapshot exported by the editor (JSON)\n" ++
  "\n" ++
  "Options:\n" ++
  "  -f, --format <FORMAT>  Target format: prisma, sql, sequelize, typeorm, sqlalchemy, mongoose, dbml, " ++
  "typescript [default: prisma]\n" ++
  "  -o, --output <OUTPUT>  Path to write the generated code. Prints to stdout if not set\n" ++
  "      --download <DIR>   Write to DIR using the format's default file name\n" ++
  "      --all <DIR>        Write every format into DIR\n" ++
  "  -h, --help             Print help\n" ++
  "  -V, --version          Print version\n"

end SchemaCode.CommandLine
