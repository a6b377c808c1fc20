/-!
# Keywords

The words reserved by every dialect and the words that only one dialect knows. A constructor is
spelled as its word is.
-/

namespace SqlSharding

/-- A word that every dialect reserves; it names no table or column unless it is quoted. -/
inductive ReservedWord
  | SELECT | INSERT | UPDATE | DELETE | CREATE | ALTER | DROP | TRUNCATE | MERGE | GRANT | REVOKE
  | COMMIT | ROLLBACK | SAVEPOINT | SCHEMA | DATABASE | TABLE | COLUMN | VIEW | INDEX | TRIGGER
  | PROCEDURE | FUNCTION | SEQUENCE | TABLESPACE | DISTINCT | ALL | FROM | WHERE | INTO | VALUES
  | SET | AS | ON | USING | JOIN | INNER | LEFT | RIGHT | FULL | OUTER | CROSS | NATURAL | GROUP
  | BY | ORDER | HAVING | UNION | EXCEPT | INTERSECT | MINUS | ASC | DESC | WITH | FOR | AND | OR
  | NOT | NULL | IS | IN | LIKE | BETWEEN | EXISTS | CASE | WHEN | THEN | ELSE | END | TRUE
  | FALSE | IF | TEMPORARY | ONLY | DEFAULT | PRIMARY | KEY | UNIQUE | FOREIGN | REFERENCES
  | CONSTRAINT | CHECK | ADD | RENAME | TO
  deriving DecidableEq

namespace ReservedWord

/-- All words, in the order of their declaration. -/
def all : List ReservedWord := [
  SELECT, INSERT, UPDATE, DELETE, CREATE, ALTER, DROP, TRUNCATE, MERGE, GRANT, REVOKE, COMMIT,
  ROLLBACK, SAVEPOINT, SCHEMA, DATABASE, TABLE, COLUMN, VIEW, INDEX, TRIGGER, PROCEDURE, FUNCTION,
  SEQUENCE, TABLESPACE, DISTINCT, ALL, FROM, WHERE, INTO, VALUES, SET, AS, ON, USING, JOIN, INNER,
  LEFT, RIGHT, FULL, OUTER, CROSS, NATURAL, GROUP, BY, ORDER, HAVING, UNION, EXCEPT, INTERSECT,
  MINUS, ASC, DESC, WITH, FOR, AND, OR, NOT, NULL, IS, IN, LIKE, BETWEEN, EXISTS, CASE, WHEN,
  THEN, ELSE, END, TRUE, FALSE, IF, TEMPORARY, ONLY, DEFAULT, PRIMARY, KEY, UNIQUE, FOREIGN,
  REFERENCES, CONSTRAINT, CHECK, ADD, RENAME, TO]

/-- The word in capital letters. -/
def spelling : ReservedWord → String
  | SELECT => "SELECT"
  | INSERT => "INSERT"
  | UPDATE => "UPDATE"
  | DELETE => "DELETE"
  | CREATE => "CREATE"
  | ALTER => "ALTER"
  | DROP => "DROP"
  | TRUNCATE => "TRUNCATE"
  | MERGE => "MERGE"
  | GRANT => "GRANT"
  | REVOKE => "REVOKE"
  | COMMIT => "COMMIT"
  | ROLLBACK => "ROLLBACK"
  | SAVEPOINT => "SAVEPOINT"
  | SCHEMA => "SCHEMA"
  | DATABASE => "DATABASE"
  | TABLE => "TABLE"
  | COLUMN => "COLUMN"
  | VIEW => "VIEW"
  | INDEX => "INDEX"
  | TRIGGER => "TRIGGER"
  | PROCEDURE => "PROCEDURE"
  | FUNCTION => "FUNCTION"
  | SEQUENCE => "SEQUENCE"
  | TABLESPACE => "TABLESPACE"
  | DISTINCT => "DISTINCT"
  | ALL => "ALL"
  | FROM => "FROM"
  | WHERE => "WHERE"
  | INTO => "INTO"
  | VALUES => "VALUES"
  | SET => "SET"
  | AS => "AS"
  | ON => "ON"
  | USING => "USING"
  | JOIN => "JOIN"
  | INNER => "INNER"
  | LEFT => "LEFT"
  | RIGHT => "RIGHT"
  | FULL => "FULL"
  | OUTER => "OUTER"
  | CROSS => "CROSS"
  | NATURAL => "NATURAL"
  | GROUP => "GROUP"
  | BY => "BY"
  | ORDER => "ORDER"
  | HAVING => "HAVING"
  | UNION => "UNION"
  | EXCEPT => "EXCEPT"
  | INTERSECT => "INTERSECT"
  | MINUS => "MINUS"
  | ASC => "ASC"
  | DESC => "DESC"
  | WITH => "WITH"
  | FOR => "FOR"
  | AND => "AND"
  | OR => "OR"
  | NOT => "NOT"
  | NULL => "NULL"
  | IS => "IS"
  | IN => "IN"
  | LIKE => "LIKE"
  | BETWEEN => "BETWEEN"
  | EXISTS => "EXISTS"
  | CASE => "CASE"
  | WHEN => "WHEN"
  | THEN => "THEN"
  | ELSE => "ELSE"
  | END => "END"
  | TRUE => "TRUE"
  | FALSE => "FALSE"
  | IF => "IF"
  | TEMPORARY => "TEMPORARY"
  | ONLY => "ONLY"
  | DEFAULT => "DEFAULT"
  | PRIMARY => "PRIMARY"
  | KEY => "KEY"
  | UNIQUE => "UNIQUE"
  | FOREIGN => "FOREIGN"
  | REFERENCES => "REFERENCES"
  | CONSTRAINT => "CONSTRAINT"
  | CHECK => "CHECK"
  | ADD => "ADD"
  | RENAME => "RENAME"
  | TO => "TO"

end ReservedWord

/-- A word with a meaning in MySQL and H2 only. -/
inductive MySQLWord
  | SHOW | DUAL | LIMIT | OFFSET | VALUE | IGNORE | REPLACE | DUPLICATE | LOW_PRIORITY | DELAYED
  | HIGH_PRIORITY | QUICK | STRAIGHT_JOIN | SQL_CALC_FOUND_ROWS | SQL_NO_CACHE | DISTINCTROW
  | FORCE | USE
  deriving DecidableEq

namespace MySQLWord

/-- All words, in the order of their declaration. -/
def all : List MySQLWord := [
  SHOW, DUAL, LIMIT, OFFSET, VALUE, IGNORE, REPLACE, DUPLICATE, LOW_PRIORITY, DELAYED,
  HIGH_PRIORITY, QUICK, STRAIGHT_JOIN, SQL_CALC_FOUND_ROWS, SQL_NO_CACHE, DISTINCTROW, FORCE, USE]

/-- The word in capital letters. -/
def spelling : MySQLWord → String
  | SHOW => "SHOW"
  | DUAL => "DUAL"
  | LIMIT => "LIMIT"
  | OFFSET => "OFFSET"
  | VALUE => "VALUE"
  | IGNORE => "IGNORE"
  | REPLACE => "REPLACE"
  | DUPLICATE => "DUPLICATE"
  | LOW_PRIORITY => "LOW_PRIORITY"
  | DELAYED => "DELAYED"
  | HIGH_PRIORITY => "HIGH_PRIORITY"
  | QUICK => "QUICK"
  | STRAIGHT_JOIN => "STRAIGHT_JOIN"
  | SQL_CALC_FOUND_ROWS => "SQL_CALC_FOUND_ROWS"
  | SQL_NO_CACHE => "SQL_NO_CACHE"
  | DISTINCTROW => "DISTINCTROW"
  | FORCE => "FORCE"
  | USE => "USE"

end MySQLWord

/-- A word with a meaning in Oracle only. -/
inductive OracleWord
  | DUAL | GLOBAL | ROWNUM | CONNECT | START | PRIOR | NOCYCLE | SIBLINGS | NOWAIT | PURGE | FETCH
  | ROWS
  deriving DecidableEq

namespace OracleWord

/-- All words, in the order of their declaration. -/
def all : List OracleWord := [
  DUAL, GLOBAL, ROWNUM, CONNECT, START, PRIOR, NOCYCLE, SIBLINGS, NOWAIT, PURGE, FETCH, ROWS]

/-- The word in capital letters. -/
def spelling : OracleWord → String
  | DUAL => "DUAL"
  | GLOBAL => "GLOBAL"
  | ROWNUM => "ROWNUM"
  | CONNECT => "CONNECT"
  | START => "START"
  | PRIOR => "PRIOR"
  | NOCYCLE => "NOCYCLE"
  | SIBLINGS => "SIBLINGS"
  | NOWAIT => "NOWAIT"
  | PURGE => "PURGE"
  | FETCH => "FETCH"
  | ROWS => "ROWS"

end OracleWord

/-- A word with a meaning in SQL Server only. -/
inductive SQLServerWord
  | TOP | PERCENT | TIES | OUTPUT | NOLOCK | APPLY | OFFSET | FETCH | NEXT | ROWS
  deriving DecidableEq

namespace SQLServerWord

/-- All words, in the order of their declaration. -/
def all : List SQLServerWord := [
  TOP, PERCENT, TIES, OUTPUT, NOLOCK, APPLY, OFFSET, FETCH, NEXT, ROWS]

/-- The word in capital letters. -/
def spelling : SQLServerWord → String
  | TOP => "TOP"
  | PERCENT => "PERCENT"
  | TIES => "TIES"
  | OUTPUT => "OUTPUT"
  | NOLOCK => "NOLOCK"
  | APPLY => "APPLY"
  | OFFSET => "OFFSET"
  | FETCH => "FETCH"
  | NEXT => "NEXT"
  | ROWS => "ROWS"

end SQLServerWord

/-- A word with a meaning in PostgreSQL only. -/
inductive PostgreSQLWord
  | LIMIT | OFFSET | RETURNING | GLOBAL | LOCAL | TEMP | UNLOGGED | ILIKE | CASCADE | RESTRICT
  deriving DecidableEq

namespace PostgreSQLWord

/-- All words, in the order of their declaration. -/
def all : List PostgreSQLWord := [
  LIMIT, OFFSET, RETURNING, GLOBAL, LOCAL, TEMP, UNLOGGED, ILIKE, CASCADE, RESTRICT]

/-- The word in capital letters. -/
def spelling : PostgreSQLWord → String
  | LIMIT => "LIMIT"
  | OFFSET => "OFFSET"
  | RETURNING => "RETURNING"
  | GLOBAL => "GLOBAL"
  | LOCAL => "LOCAL"
  | TEMP => "TEMP"
  | UNLOGGED => "UNLOGGED"
  | ILIKE => "ILIKE"
  | CASCADE => "CASCADE"
  | RESTRICT => "RESTRICT"

end PostgreSQLWord

end SqlSharding
