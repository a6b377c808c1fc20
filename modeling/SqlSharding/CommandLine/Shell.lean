import SqlSharding.CommandLine.InputLine
import SqlSharding.CommandLine.Session

/-!
# The shell

The shell answers line by line. A line is a command of the shell or else a statement; blanks around
it and the letter case of a command do not matter. Only the command `dialect` changes the session,
and only `exit` and `quit` end it.
-/

namespace SqlSharding.Shell

/-- What a line asks for. -/
inductive Command
  | nothing
  | leave
  | help
  | keywords
  /-- Another dialect, by the name after the command word. -/
  | switch (name : String)
  | statement (text : String)
  deriving DecidableEq

/-- The beginning of a line that switches the dialect. -/
def switchWord : List Char := "dialect ".toList

/-- What a line asks for. -/
def Command.ofLine (line : String) : Command :=
  let trimmed := Text.trimChars line.toList
  let lower := Text.lowerAfter [] trimmed
  if trimmed.isEmpty then .nothing
  else if lower = "exit".toList ∨ lower = "quit".toList then .leave
  else if lower = "help".toList then .help
  else if lower = "keywords".toList then .keywords
  else if switchWord.isPrefixOf lower then
    .switch (Text.trim (String.ofList (trimmed.drop switchWord.length)))
  else .statement (String.ofList trimmed)

/-- The lines that help a user. -/
def helpLines : List String := [
  "Available commands:",
  "  SELECT ... FROM <table>       - Parse a query",
  "  INSERT INTO <table> ...       - Parse an insert",
  "  UPDATE <table> SET ...        - Parse an update",
  "  DELETE FROM <table>           - Parse a delete",
  "  CREATE | ALTER | DROP | TRUNCATE TABLE <table> ...",
  "",
  "Other commands:",
  "  dialect <name>                - Switch the SQL dialect",
  "  keywords                      - List the routed statement keywords",
  "  help                          - Display this help message",
  "  exit                          - Exit the CLI"]

/-- The line that greets a user. -/
def greeting (session : Session) : String :=
  "Welcome to ShardSQL CLI (" ++ session.dialect.productName ++
    "). Type 'help' for assistance or 'exit' to quit."

/-- The answer to a line: what is shown, and the session for the next line unless the shell ends. -/
structure Answer where
  lines : List String
  next? : Option Session
  deriving DecidableEq

/-- Carries out a command. -/
def answer (session : Session) : Command → Answer
  | .nothing => ⟨[], some session⟩
  | .leave => ⟨["Goodbye!"], none⟩
  | .help => ⟨helpLines, some session⟩
  | .keywords => ⟨session.keywordLines, some session⟩
  | .switch name =>
    match Dialect.ofUserName name with
    | .ok dialect =>
      ⟨["Dialect set to " ++ dialect.productName], some { session with dialect }⟩
    | .error unknown => ⟨["Error: " ++ unknown.message], some session⟩
  | .statement text =>
    match session.parseLines text with
    | .ok lines => ⟨lines, some session⟩
    | .error failure => ⟨["Error: " ++ failure.line], some session⟩

/-- What is shown for lines, up to the one that ends the shell, and the session after them unless
one of them does. -/
def converse : Session → List String → Answer
  | session, [] => ⟨[], some session⟩
  | session, line :: others =>
    let first := answer session (.ofLine line)
    match first.next? with
    | some next =>
      let later := converse next others
      { later with lines := first.lines ++ later.lines }
    | none => first

/-- How the shell ends. -/
inductive Ending
  /-- A line or the end of the input ended it. -/
  | regular
  /-- It came to a line that stands for no text. -/
  | broken
  deriving DecidableEq

/-- What the shell shows for an input, and how it ends. -/
def run (session : Session) (input : String) : List String × Ending :=
  let delivery := InputLine.ofInput input
  let conversation := converse session delivery.texts
  let shown := greeting session :: conversation.lines
  if conversation.next?.isNone then (shown, .regular)
  else if delivery.isBroken then (shown, .broken)
  else (shown ++ ["CTRL-D"], .regular)

end SqlSharding.Shell
