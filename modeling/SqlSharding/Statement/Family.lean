import SqlSharding.Token

/-!
# Statement families

The eight kinds of statement that are read, each named by the reserved word it begins with.
-/

namespace SqlSharding

/-- The broad categories of SQL. -/
inductive Category
  | query
  | manipulation
  | definition
  deriving DecidableEq

/-- The usual abbreviation of the category. -/
def Category.label : Category → String
  | query => "DQL"
  | manipulation => "DML"
  | definition => "DDL"

/-- The kinds of statement. -/
inductive Family
  | select
  | insert
  | update
  | delete
  | create
  | alter
  | drop
  | truncate
  deriving DecidableEq

namespace Family

/-- All families. -/
def all : List Family := [select, insert, update, delete, create, alter, drop, truncate]

/-- The word that begins the statements of the family. -/
def keyword : Family → ReservedWord
  | select => .SELECT
  | insert => .INSERT
  | update => .UPDATE
  | delete => .DELETE
  | create => .CREATE
  | alter => .ALTER
  | drop => .DROP
  | truncate => .TRUNCATE

/-- The family that a reserved word begins, if it begins one. -/
def ofKeyword? (word : ReservedWord) : Option Family :=
  all.find? (·.keyword == word)

/-- The category of the family. -/
def category : Family → Category
  | select => .query
  | insert | update | delete => .manipulation
  | create | alter | drop | truncate => .definition

/-- The family as messages name it. -/
def label (family : Family) : String :=
  family.keyword.spelling

end Family

end SqlSharding
