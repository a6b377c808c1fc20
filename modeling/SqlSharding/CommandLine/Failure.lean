import SqlSharding.ParseError
import SqlSharding.Rule.Validation

/-!
# Failures of the command line

A failure is told with its causes: what was being done, and why it could not be done.
-/

namespace SqlSharding

/-- Why a file cannot be read as text. -/
inductive FileFault
  | notFound
  | isDirectory
  | notDirectory
  | denied
  | notText
  /-- Any other fault, in the words of the system. -/
  | other (message : String)
  deriving DecidableEq

/-- The wording of the fault. -/
def FileFault.message : FileFault → String
  | notFound => "No such file or directory (os error 2)"
  | isDirectory => "Is a directory (os error 21)"
  | notDirectory => "Not a directory (os error 20)"
  | denied => "Permission denied (os error 13)"
  | notText => "stream did not contain valid UTF-8"
  | other message => message

/-- What the command line could not do. -/
inductive Failure
  | unreadableRule (path : String) (fault : FileFault)
  | unusableRule (path : String) (cause : LoadError)
  | refusedStatement (dialect : Dialect) (cause : ParseError)
  deriving DecidableEq

namespace Failure

/-- The causes of a rule that could not be loaded, the last of which is the innermost. -/
def loadCauses : LoadError → List String
  | .malformed text fault =>
    ["Malformed sharding rule: " ++ fault.message text, fault.message text]
  | .inconsistent cause => [cause.message]

/-- What failed, followed by the causes from the outermost to the innermost. -/
def chain : Failure → String × List String
  | unreadableRule path fault =>
    ("Failed to initialize session", [
      "Failed to load sharding rule from " ++ path,
      "Failed to read sharding rule: " ++ fault.message,
      fault.message])
  | unusableRule path cause =>
    ("Failed to initialize session",
      ("Failed to load sharding rule from " ++ path) :: loadCauses cause)
  | refusedStatement dialect cause =>
    ("Failed to parse " ++ dialect.productName ++ " statement", [cause.message])

/-- The failure in one line. -/
def line (failure : Failure) : String :=
  ": ".intercalate (failure.chain.1 :: failure.chain.2)

/-- A text whose lines after the first begin with `margin`. -/
def indented (margin text : String) : String :=
  ("\n" ++ margin).intercalate (text.splitOn "\n")

/-- The causes of a failure in numbered lines; a single cause has no number. -/
def causeLines : List String → List String
  | [cause] => ["    " ++ indented "    " cause]
  | causes => causes.zipIdx.map fun (cause, index) =>
    "    " ++ toString index ++ ": " ++ indented "       " cause

/-- The report of a failure. -/
def report (failure : Failure) : String :=
  let (outcome, causes) := failure.chain
  "Error: " ++ outcome ++ "\n\nCaused by:\n" ++ "\n".intercalate (causeLines causes) ++ "\n"

end Failure

end SqlSharding
