import SqlSharding.Text.Quoted

/-!
# Why JSON text is refused

Either the text is not JSON, or a value in it is not one that can stand there. Of several faults the
one that comes first in the text is reported.
-/

namespace SqlSharding.Json

/-- A value that stands where another kind of value has to stand. -/
inductive Found
  | null
  | boolean (value : Bool)
  | integer (value : Int)
  /-- A floating-point number, by its text. -/
  | floating (text : String)
  | string (text : String)
  | sequence
  | map
  deriving DecidableEq

/-- The value as messages name it. -/
def Found.label : Found → String
  | null => "null"
  | boolean value => "boolean `" ++ (if value then "true" else "false") ++ "`"
  | integer value => "integer `" ++ toString value ++ "`"
  | floating text => "floating point `" ++ text ++ "`"
  | string text => "string " ++ Text.quoted text
  | sequence => "sequence"
  | map => "map"

/-- Why a well-formed value is refused. -/
inductive Cause
  | wrongType (found : Found) (expected : String)
  | missingField (name : String)
  | duplicateField (name : String)
  /-- A list of fields ends before a field that is needed. -/
  | tooShort (length : Nat) (expected : String)
  | unknownVariant (name : String) (expected : List String)
  /-- The value has a meaning outside JSON, and breaks its rules for the reason given. -/
  | refused (reason : String)
  deriving DecidableEq

/-- Names between backticks with commas between them. -/
def listed (names : List String) : String :=
  ", ".intercalate (names.map fun name => "`" ++ name ++ "`")

/-- The wording of the cause. -/
def Cause.message : Cause → String
  | wrongType found expected => "invalid type: " ++ found.label ++ ", expected " ++ expected
  | missingField name => "missing field `" ++ name ++ "`"
  | duplicateField name => "duplicate field `" ++ name ++ "`"
  | tooShort length expected => "invalid length " ++ toString length ++ ", expected " ++ expected
  | unknownVariant name expected =>
    "unknown variant `" ++ name ++ "`, expected one of " ++ listed expected
  | refused reason => reason

/-- Why JSON text is refused. -/
inductive Fault
  /-- The text is not JSON, or goes on after its value. -/
  | malformed
  /-- A value is refused; `unread` characters follow the place where that became clear. -/
  | data (cause : Cause) (unread : Nat)
  deriving DecidableEq

/-- The place before the last `unread` characters: the line, and the number of bytes before it in the
line. -/
def place (characters : List Char) (unread : Nat) : Nat × Nat :=
  let before := characters.take (characters.length - unread)
  let line := (before.reverse.takeWhile (· != '\n')).reverse
  (before.count '\n' + 1, (String.ofList line).utf8ByteSize)

/-- The wording of the fault in a text. -/
def Fault.message (text : String) : Fault → String
  | malformed => "malformed JSON"
  | data cause unread =>
    let (line, column) := place text.toList unread
    cause.message ++ " at line " ++ toString line ++ " column " ++ toString column

end SqlSharding.Json
