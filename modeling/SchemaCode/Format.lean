import SchemaCode.Text.Lower

namespace SchemaCode

inductive Format where
  | prisma
  | sql
  | sequelize
  | typeOrm
  | sqlAlchemy
  | mongoose
  | dbml
  | typeScript
  deriving DecidableEq

namespace Format

def all : List Format :=
  [.prisma, .sql, .sequelize, .typeOrm, .sqlAlchemy, .mongoose, .dbml, .typeScript]

theorem mem_all (f : Format) : f ∈ all := by cases f <;> decide

def id : Format → String
  | .prisma => "prisma"
  | .sql => "sql"
  | .sequelize => "sequelize"
  | .typeOrm => "typeorm"
  | .sqlAlchemy => "sqlalchemy"
  | .mongoose => "mongoose"
  | .dbml => "dbml"
  | .typeScript => "typescript"

def ofString? (s : String) : Option Format :=
  match Text.lower s with
  | "prisma" => some .prisma
  | "sql" | "postgres" | "postgresql" => some .sql
  | "sequelize" => some .sequelize
  | "typeorm" => some .typeOrm
  | "sqlalchemy" | "py" | "python" => some .sqlAlchemy
  | "mongoose" => some .mongoose
  | "dbml" => some .dbml
  | "typescript" | "ts" => some .typeScript
  | _ => none

def ofString (s : String) : Format := (ofString? s).getD .prisma

def displayName : Format → String
  | .prisma => "Prisma"
  | .sql => "SQL"
  | .sequelize => "Sequelize"
  | .typeOrm => "TypeORM"
  | .sqlAlchemy => "SQLAlchemy"
  | .mongoose => "Mongoose"
  | .dbml => "DBML"
  | .typeScript => "TypeScript"

def fileName : Format → String
  | .prisma => "schema.prisma"
  | .sql => "schema.sql"
  | .sequelize => "models.js"
  | .typeOrm => "entities.ts"
  | .sqlAlchemy => "models.py"
  | .mongoose => "schemas.js"
  | .dbml => "schema.dbml"
  | .typeScript => "types.ts"

theorem fileName_injective {f g : Format} (h : f.fileName = g.fileName) : f = g := by
  revert h
  cases f <;> cases g <;> decide

def commentMark : Format → String
  | .sql => "--"
  | .sqlAlchemy => "#"
  | _ => "//"

def comment (f : Format) (text : String) : String := f.commentMark ++ " " ++ text

end Format

end SchemaCode
