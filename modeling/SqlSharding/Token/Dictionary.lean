import SqlSharding.Dialect
import SqlSharding.Token
import SqlSharding.Text.LetterCase.Upper

/-!
# Dictionaries

The keywords that a lexer tells from identifiers. A word is looked up by its upper-case form, so a
word that only maps to a keyword, such as `croß`, is that keyword too.
-/

namespace SqlSharding

/-- Keywords with their kinds. -/
structure Dictionary where
  entries : List (String × Kind)
  deriving DecidableEq

namespace Dictionary

/-- The words that every dialect reserves. -/
def reservedEntries : List (String × Kind) :=
  ReservedWord.all.map fun word => (word.spelling, .reserved word)

/-- The reserved words together with the words of a dialect. The reserved words are found first, so
no dialect can redefine one. -/
def withWords (words : List (String × Kind)) : Dictionary :=
  ⟨reservedEntries ++ words⟩

/-- The dictionary of a grammar. -/
def ofGrammar : Grammar → Dictionary
  | .mySQL => withWords (MySQLWord.all.map fun word => (word.spelling, .mySQL word))
  | .oracle => withWords (OracleWord.all.map fun word => (word.spelling, .oracle word))
  | .sqlServer => withWords (SQLServerWord.all.map fun word => (word.spelling, .sqlServer word))
  | .postgreSQL => withWords (PostgreSQLWord.all.map fun word => (word.spelling, .postgreSQL word))

/-- The dictionary of a dialect. -/
def ofDialect (dialect : Dialect) : Dictionary :=
  ofGrammar dialect.grammar

/-- The kind of a word, if it is a keyword in any letter case. -/
def find? (dictionary : Dictionary) (word : String) : Option Kind :=
  dictionary.entries.lookup (Text.toUpper word)

/-- The number of keywords. -/
def size (dictionary : Dictionary) : Nat :=
  dictionary.entries.length

/-- Whether there is no keyword. -/
def isEmpty (dictionary : Dictionary) : Bool :=
  dictionary.entries.isEmpty

end Dictionary

end SqlSharding
