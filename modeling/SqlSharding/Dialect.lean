import SqlSharding.Text.Blank
import SqlSharding.Text.LetterCase.Lower

/-!
# SQL dialects

The database products whose SQL is understood, their names, and the four grammars they are read by:
H2 is read as MySQL.
-/

namespace SqlSharding

/-- A database product. -/
inductive Dialect
  | h2
  | mySQL
  | oracle
  | sqlServer
  | postgreSQL
  deriving DecidableEq

namespace Dialect

/-- All dialects. -/
def all : List Dialect := [h2, mySQL, oracle, sqlServer, postgreSQL]

/-- The name a database driver reports for the product. -/
def productName : Dialect → String
  | h2 => "H2"
  | mySQL => "MySQL"
  | oracle => "Oracle"
  | sqlServer => "Microsoft SQL Server"
  | postgreSQL => "PostgreSQL"

/-- The name under which configuration files refer to the dialect. -/
def configName : Dialect → String
  | h2 => "H2"
  | mySQL => "MySQL"
  | oracle => "Oracle"
  | sqlServer => "SQLServer"
  | postgreSQL => "PostgreSQL"

/-- The dialect of a configuration name, which is matched exactly. -/
def ofConfigName? (name : String) : Option Dialect :=
  all.find? (·.configName == name)

/-- The names, in lower case, by which a user may call the dialect. -/
def userNames : Dialect → List String
  | h2 => ["h2"]
  | mySQL => ["mysql"]
  | oracle => ["oracle"]
  | sqlServer => ["sqlserver", "mssql", "microsoft sql server"]
  | postgreSQL => ["postgresql", "postgres"]

/-- A name that no dialect has; it is kept as the user wrote it. -/
structure Unknown where
  name : String
  deriving DecidableEq

/-- What the user is told about an unknown name. -/
def Unknown.message (unknown : Unknown) : String :=
  "Unsupported database type: " ++ unknown.name

/-- The dialect a user calls by `name`; letter case and blanks around the name do not matter. -/
def ofUserName (name : String) : Except Unknown Dialect :=
  let wanted := Text.toLower (Text.trim name)
  match all.find? (·.userNames.contains wanted) with
  | some dialect => .ok dialect
  | none => .error ⟨name⟩

end Dialect

/-- A family of statement forms shared by the dialects that are read alike. -/
inductive Grammar
  | mySQL
  | oracle
  | sqlServer
  | postgreSQL
  deriving DecidableEq

/-- The grammar a dialect is read by. -/
def Dialect.grammar : Dialect → Grammar
  | .h2 | .mySQL => .mySQL
  | .oracle => .oracle
  | .sqlServer => .sqlServer
  | .postgreSQL => .postgreSQL

end SqlSharding
