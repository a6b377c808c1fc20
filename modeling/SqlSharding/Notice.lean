import SqlSharding.Dialect
import SqlSharding.Token

/-!
# Notices

What the library tells its log while it works. A computation that may tell something gives its
notices beside its value, in the order they were given.
-/

namespace SqlSharding

/-- How much a notice matters. -/
inductive Level
  | debug
  | warning
  deriving DecidableEq

/-- The name of the level. -/
def Level.label : Level → String
  | debug => "DEBUG"
  | warning => "WARN"

/-- Something told to the log. -/
inductive Notice
  /-- A text is about to be read. -/
  | parsing (dialect : Dialect) (text : String)
  /-- A parser for the statement that the word begins is about to be chosen. -/
  | dispatching (word : ReservedWord) (dialect : Dialect)
  /-- The rule of a table has no sharding columns. -/
  | noShardingColumns (table : String)
  deriving DecidableEq

namespace Notice

/-- How much the notice matters. -/
def level : Notice → Level
  | parsing .. | dispatching .. => .debug
  | noShardingColumns .. => .warning

/-- The wording of the notice. -/
def message : Notice → String
  | parsing dialect text => "Parsing " ++ dialect.productName ++ " statement: " ++ text
  | dispatching word dialect =>
    "Dispatching " ++ word.spelling ++ " statement for " ++ dialect.productName
  | noShardingColumns table => "Table rule " ++ table ++ " declares no sharding columns"

/-- The line that the log shows. -/
def line (notice : Notice) : String :=
  notice.level.label ++ " " ++ notice.message

end Notice

/-- A value with the notices given on the way to it. -/
structure Logged (α : Type) where
  notices : List Notice
  value : α
  deriving DecidableEq

namespace Logged

/-- Tells the log one thing. -/
def tell (notice : Notice) : Logged Unit :=
  ⟨[notice], ()⟩

instance : Monad Logged where
  pure value := ⟨[], value⟩
  bind before next :=
    let after := next before.value
    ⟨before.notices ++ after.notices, after.value⟩

variable {α β : Type}

/-- A value by itself gives no notices. -/
@[simp] theorem notices_pure (value : α) : (pure value : Logged α).notices = [] := rfl

/-- A value by itself is the value. -/
@[simp] theorem value_pure (value : α) : (pure value : Logged α).value = value := rfl

/-- The notices of a sequence are those of its parts, in order. -/
@[simp] theorem notices_bind (before : Logged α) (next : α → Logged β) :
    (before >>= next).notices = before.notices ++ (next before.value).notices := rfl

/-- The value of a sequence is that of its second part. -/
@[simp] theorem value_bind (before : Logged α) (next : α → Logged β) :
    (before >>= next).value = (next before.value).value := rfl

/-- What is told is the one notice. -/
@[simp] theorem notices_tell (notice : Notice) : (tell notice).notices = [notice] := rfl

/-- Telling has no value of interest. -/
@[simp] theorem value_tell (notice : Notice) : (tell notice).value = () := rfl

end Logged

end SqlSharding
