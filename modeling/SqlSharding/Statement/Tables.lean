import SqlSharding.Text.Ascii
import SqlSharding.Token

/-!
# The tables of a statement

A statement may name a table several times, in any letter case and under several aliases. Its table
list has one entry for each name, spelled as it first appears, with the aliases given to it.
-/

namespace SqlSharding

/-- A table and the aliases given to it, without quotation marks. -/
structure Table where
  name : String
  /-- The aliases in order of appearance; a table joined to itself has several. -/
  aliases : List String
  deriving DecidableEq

namespace Table

/-- A table with at most one alias. -/
def ofName (name : String) (alias? : Option String) : Table :=
  ⟨name, alias?.toList⟩

/-- The first alias. -/
def alias? (table : Table) : Option String :=
  table.aliases.head?

/-- Whether the table has the name, in any letter case. -/
def hasName (table : Table) (name : String) : Bool :=
  Text.sameName table.name name

/-- Whether one of the aliases is the name, in any letter case. -/
def hasAlias (table : Table) (name : String) : Bool :=
  table.aliases.any (Text.sameName · name)

/-- The table with another alias, unless it has that alias already. -/
def addAlias (table : Table) (name : String) : Table :=
  if table.hasAlias name then table else { table with aliases := table.aliases ++ [name] }

end Table

/-- Tables with different names, in order of first appearance. -/
structure Tables where
  entries : List Table
  deriving DecidableEq

namespace Tables

/-- No tables. -/
def empty : Tables := ⟨[]⟩

/-- Adds a table to a list of entries: its aliases go to the first entry of its name, and a new name
makes a new entry. -/
def insert (table : Table) : List Table → List Table
  | [] => [table]
  | entry :: rest =>
    if entry.hasName table.name then table.aliases.foldl Table.addAlias entry :: rest
    else entry :: insert table rest

/-- The tables with another one added. -/
def add (tables : Tables) (table : Table) : Tables :=
  ⟨insert table tables.entries⟩

/-- The table of a name, or else the first table with the name as an alias. -/
def find? (tables : Tables) (name : String) : Option Table :=
  tables.entries.find? (·.hasName name) <|> tables.entries.find? (·.hasAlias name)

/-- The names in order. -/
def names (tables : Tables) : List String :=
  tables.entries.map (·.name)

/-- The number of tables. -/
def size (tables : Tables) : Nat :=
  tables.entries.length

/-- Whether there is no table. -/
def isEmpty (tables : Tables) : Bool :=
  tables.entries.isEmpty

/-- Whether there is exactly one table. -/
def isSingle (tables : Tables) : Bool :=
  tables.size == 1

end Tables

/-- A table name in the text of a statement, where a physical name can be put in its place. -/
structure TableMark where
  /-- The place of the first character. -/
  position : Nat
  /-- The name as written, with its quotation marks. -/
  written : String
  deriving DecidableEq

/-- The name without quotation marks. -/
def TableMark.name (mark : TableMark) : String :=
  unquote mark.written

/-- A table as a statement refers to it. -/
structure TableReference where
  mark : TableMark
  alias? : Option String
  deriving DecidableEq

/-- The table that is referred to. -/
def TableReference.table (reference : TableReference) : Table :=
  .ofName reference.mark.name reference.alias?

/-- The tables of a list of references. -/
def Tables.ofReferences (references : List TableReference) : Tables :=
  references.foldl (fun tables reference => tables.add reference.table) .empty

end SqlSharding
