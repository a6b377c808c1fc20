import SqlSharding.Dialect

/-!
# Arguments of the command line

Options come before the command, each at most once. The command `parse` takes the statement as one
argument, which may begin with a hyphen only after `--`. Without a command the shell is meant.
-/

namespace SqlSharding.Arguments

/-- What the program is asked to do with a session. -/
inductive Command
  | shell
  | parse (statement : String)
  | keywords
  deriving DecidableEq

/-- The options that have been given. -/
structure Options where
  dialect? : Option Dialect := none
  rulePath? : Option String := none
  isVerbose : Bool := false
  deriving DecidableEq

/-- The dialect of the session. -/
def Options.dialect (options : Options) : Dialect :=
  options.dialect?.getD .mySQL

/-- What the program is asked for. -/
inductive Request
  | version
  | help
  | run (options : Options) (command : Command)
  deriving DecidableEq

/-- Why arguments are not understood. -/
inductive UsageError
  | unexpected (argument : String)
  | repeatedOption (name : String)
  | missingValue (name : String)
  | badValue (name value : String)
  | missingStatement
  deriving DecidableEq

/-- Whether an argument is an option and not a value. A lone hyphen is a value. -/
def isOption (argument : String) : Bool :=
  match argument.toList with
  | '-' :: _ :: _ => true
  | _ => false

/-- The options that take a value. -/
inductive ValueOption
  | dialect
  | rule
  deriving DecidableEq

namespace ValueOption

/-- The long name. -/
def name : ValueOption → String
  | dialect => "dialect"
  | rule => "rule"

/-- The option of a letter. -/
def ofLetter? : Char → Option ValueOption
  | 'd' => some dialect
  | 'r' => some rule
  | _ => none

/-- The option of a long name. -/
def ofName? : String → Option ValueOption
  | "dialect" => some dialect
  | "rule" => some rule
  | _ => none

end ValueOption

/-- Sets an option that takes a value. A path is not empty. -/
def Options.set (options : Options) (option : ValueOption) (value : String) :
    Except UsageError Options :=
  match option with
  | .dialect =>
    if options.dialect?.isSome then .error (.repeatedOption option.name)
    else match Dialect.ofUserName value with
      | .ok dialect => .ok { options with dialect? := some dialect }
      | .error _ => .error (.badValue option.name value)
  | .rule =>
    if options.rulePath?.isSome then .error (.repeatedOption option.name)
    else if value.isEmpty then .error (.badValue option.name value)
    else .ok { options with rulePath? := some value }

/-- Asks for more output. -/
def Options.setVerbose (options : Options) : Except UsageError Options :=
  if options.isVerbose then .error (.repeatedOption "verbose")
  else .ok { options with isVerbose := true }

/-- What an argument before the command does. -/
inductive Effect
  /-- It sets options. -/
  | set (options : Options)
  /-- It names an option whose value is the next argument. -/
  | awaits (option : ValueOption) (options : Options)
  /-- It asks for something in place of a command. -/
  | asks (request : Request)
  deriving DecidableEq

/-- The effect of letters after one hyphen. A letter that takes a value takes the rest, from which an
equals sign at the front is left out. -/
def letters (argument : String) (options : Options) : List Char → Except UsageError Effect
  | [] => .ok (.set options)
  | 'v' :: rest => do letters argument (← options.setVerbose) rest
  | 'V' :: _ => .ok (.asks .version)
  | 'h' :: _ => .ok (.asks .help)
  | letter :: rest =>
    match ValueOption.ofLetter? letter with
    | none => .error (.unexpected argument)
    | some option =>
      match rest with
      | [] => .ok (.awaits option options)
      | '=' :: value => do return .set (← options.set option (String.ofList value))
      | value => do return .set (← options.set option (String.ofList value))

/-- The effect of a name after two hyphens, with a value after an equals sign if there is one. -/
def longOption (argument : String) (options : Options) (name : String) (value? : Option String) :
    Except UsageError Effect :=
  match ValueOption.ofName? name, value? with
  | some option, some value => do return .set (← options.set option value)
  | some option, none => .ok (.awaits option options)
  | none, some _ => .error (.unexpected argument)
  | none, none =>
    if name = "verbose" then do return .set (← options.setVerbose)
    else if name = "version" then .ok (.asks .version)
    else if name = "help" then .ok (.asks .help)
    else .error (.unexpected argument)

/-- The effect of an option. A lone hyphen is none. -/
def effect (options : Options) (argument : String) : Except UsageError Effect :=
  match argument.toList with
  | '-' :: '-' :: rest =>
    let name := String.ofList (rest.takeWhile (· != '='))
    let value? := (rest.dropWhile (· != '=')).tail?.map String.ofList
    longOption argument options name value?
  | '-' :: first :: rest => letters argument options (first :: rest)
  | _ => .error (.unexpected argument)

/-- The arguments after a command that takes none. -/
def nothingMore (options : Options) (command : Command) : List String → Except UsageError Request
  | [] | ["--"] => .ok (.run options command)
  | argument :: _ =>
    if argument = "-h" ∨ argument = "--help" then .ok .help else .error (.unexpected argument)

/-- The arguments after `parse`; once `--` has been seen, a hyphen means nothing. -/
def statementArgument (options : Options) :
    (statement? : Option String) → (isPlain : Bool) → List String → Except UsageError Request
  | some statement, _, [] => .ok (.run options (.parse statement))
  | none, _, [] => .error .missingStatement
  | statement?, isPlain, argument :: rest =>
    if !isPlain && argument == "--" then statementArgument options statement? true rest
    else if !isPlain && (argument == "-h" || argument == "--help") then .ok .help
    else if !isPlain && isOption argument then .error (.unexpected argument)
    else match statement? with
      | none => statementArgument options (some argument) isPlain rest
      | some _ => .error (.unexpected argument)

/-- The names of the commands, among them the one that asks for help. -/
def commandNames : List String := ["shell", "parse", "keywords", "help"]

/-- The arguments after `help`: the name of a command, if any. Here nothing is an option. -/
def helpTopic : List String → Except UsageError Request
  | [] => .ok .help
  | name :: others =>
    if commandNames.contains name then
      match others with
      | [] => .ok .help
      | other :: _ => .error (.unexpected other)
    else
      .error (.unexpected name)

/-- The request of the arguments, given the options before them and the option that awaits a value. -/
def read : Options → (awaiting? : Option ValueOption) → List String → Except UsageError Request
  | options, none, [] => .ok (.run options .shell)
  | _, some option, [] => .error (.missingValue option.name)
  | options, some option, value :: rest =>
    if isOption value then .error (.missingValue option.name)
    else do read (← options.set option value) none rest
  | options, none, argument :: rest =>
    if argument = "shell" then nothingMore options .shell rest
    else if argument = "keywords" then nothingMore options .keywords rest
    else if argument = "parse" then statementArgument options none false rest
    else if argument = "help" then helpTopic rest
    else if argument = "--" then
      match rest with
      | [] => .ok (.run options .shell)
      | other :: _ => .error (.unexpected other)
    else
      match effect options argument with
      | .error cause => .error cause
      | .ok (.set options) => read options none rest
      | .ok (.awaits option options) => read options (some option) rest
      | .ok (.asks request) => .ok request

/-- The request of a command line. -/
def request (arguments : List String) : Except UsageError Request :=
  read {} none arguments

end SqlSharding.Arguments
