import SqlSharding.CommandLine.Arguments
import SqlSharding.CommandLine.Shell

/-!
# The command line

One run of the program, as a function of its arguments, the files it may read and its input. Nothing
is shown of a command when the rule of the session cannot be loaded.
-/

namespace SqlSharding.CommandLine

/-- The text of a file, or why it cannot be read. -/
abbrev Files := (path : String) → Except FileFault String

/-- What a run shows, and how it ends. -/
structure Outcome where
  exitCode : Nat
  output : String := ""
  errors : String := ""
  deriving DecidableEq

/-- Lines, each with its end. -/
def unlines (lines : List String) : String :=
  String.join (lines.map (· ++ "\n"))

/-- The version of the program. -/
def versionLine : String := "shardsql 0.1.0"

/-- How the program is called. -/
def usageLines : List String := [
  "Usage: shardsql [OPTIONS] [COMMAND]",
  "",
  "Commands:",
  "  shell     Start an interactive shell",
  "  parse     Parse a single SQL statement",
  "  keywords  List the statement keywords the parser routes",
  "",
  "Options:",
  "  -d, --dialect <DIALECT>  SQL dialect (mysql, h2, oracle, sqlserver, postgresql)",
  "  -r, --rule <RULE>        Sharding rule file (JSON)",
  "  -v, --verbose            Enable debug logging"]

/-- The session that the options ask for. -/
def openSession (files : Files) (options : Arguments.Options) : Except Failure Session :=
  match options.rulePath? with
  | none => .ok ⟨options.dialect, .empty⟩
  | some path =>
    match files path with
    | .error fault => .error (.unreadableRule path fault)
    | .ok text =>
      match (ShardingRule.load text).value with
      | .ok rule => .ok ⟨options.dialect, rule⟩
      | .error cause => .error (.unusableRule path cause)

/-- A run that shows lines. -/
def Outcome.success (lines : List String) : Outcome :=
  { exitCode := 0, output := unlines lines }

/-- A run of the shell. A line that stands for no text breaks it off. -/
def Outcome.ofShell : List String × Shell.Ending → Outcome
  | (lines, .regular) => .success lines
  | (lines, .broken) =>
    { exitCode := 101
      output := unlines lines
      errors := unlines ["A backspace fell inside a character."] }

/-- A command in a session. -/
def runCommand (session : Session) (input : String) : Arguments.Command → Except Failure Outcome
  | .shell => .ok (.ofShell (Shell.run session input))
  | .parse statement => (session.parseLines statement).map .success
  | .keywords => .ok (.success session.keywordLines)

/-- One run of the program. -/
def run (files : Files) (input : String) (arguments : List String) : Outcome :=
  match Arguments.request arguments with
  | .error _ => { exitCode := 2, errors := unlines usageLines }
  | .ok .version => .success [versionLine]
  | .ok .help => .success usageLines
  | .ok (.run options command) =>
    match do runCommand (← openSession files options) input command with
    | .ok outcome => outcome
    | .error failure => { exitCode := 1, errors := failure.report }

end SqlSharding.CommandLine
