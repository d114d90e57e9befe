import SchemaCode.Code.Dbml
import SchemaCode.Code.Mongoose
import SchemaCode.Code.Prisma
import SchemaCode.Code.Sequelize
import SchemaCode.Code.Sql
import SchemaCode.Code.SqlAlchemy
import SchemaCode.Code.TypeOrm
import SchemaCode.Format
import SchemaCode.LoadError
import SchemaCode.Relation.Resolve
import SchemaCode.Schema.Document
import SchemaCode.Text.Blank

namespace SchemaCode

namespace Format

def heading : Format → String
  | .prisma => "Prisma schema"
  | .sql => "SQL Schema"
  | .sequelize => "Sequelize Models"
  | .typeOrm => "TypeORM Entities"
  | .sqlAlchemy => "SQLAlchemy Models"
  | .mongoose => "Mongoose Schemas"
  | .dbml => "DBML Schema"
  | .typeScript => "TypeScript Interfaces"

def subject : Format → String
  | .prisma => "Prisma schema"
  | .sql => "SQL schema"
  | .sequelize => "Sequelize models"
  | .typeOrm => "TypeORM entities"
  | .sqlAlchemy => "SQLAlchemy models"
  | .mongoose => "Mongoose schemas"
  | .dbml => "DBML schema"
  | .typeScript => "TypeScript interfaces"

def title (f : Format) (project : Option String) : String :=
  match project.map Text.trim with
  | none | some "" => f.heading
  | some name => f.heading ++ " for " ++ name

def placeholder (f : Format) : String :=
  f.comment ("Add tables to your diagram to generate " ++ f.subject) ++ "\n"

def opening : Format → String
  | .prisma => Prisma.preamble
  | _ => ""

def code (f : Format) (r : Resolution) : String :=
  match f with
  | .prisma => Prisma.code r
  | .sql => Sql.code r
  | .sequelize => Sequelize.code r
  | .typeOrm => TypeOrm.code r
  | .sqlAlchemy => SqlAlchemy.code r
  | .mongoose => Mongoose.code r
  | .dbml => Dbml.code r
  | .typeScript => TypeScript.code r

def body (f : Format) (r : Resolution) : String :=
  f.opening ++ (if r.hasTables then f.code r else f.placeholder)

end Format

def Schema.generate (s : Schema) (f : Format) : String :=
  f.comment (f.title s.name) ++ "\n\n" ++ f.body s.resolve

def generateText (text format : String) : String :=
  let f := Format.ofString format
  match Schema.ofText text with
  | .ok s => s.generate f
  | .error reason => f.comment (LoadError.malformed reason).message ++ "\n"

end SchemaCode
