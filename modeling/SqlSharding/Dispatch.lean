import SqlSharding.Notice
import SqlSharding.Reading.Change
import SqlSharding.Reading.Definition
import SqlSharding.Reading.Insert

/-!
# Choosing a parser

The first token of a statement decides which family it belongs to. Only reserved words begin a
statement, and only the keywords of the eight families are routed to a factory of parsers; the
factory decides by the dialect.
-/

namespace SqlSharding

/-- A reading of the statement under a cursor. It may be run again from where it left the cursor. -/
abbrev Parser := Reading Statement

/-- The parser of a family in a grammar. -/
def Family.parser (grammar : Grammar) (rule : ShardingRule) : Family → Parser
  | select => Reading.select grammar
  | insert => Reading.insert grammar rule
  | update => Reading.update grammar
  | delete => Reading.delete grammar
  | create => Reading.create grammar
  | alter => Reading.alter grammar
  | drop => Reading.drop grammar
  | truncate => Reading.truncate grammar

/-- Parsers by family. A factory sees the dialect, the rule and the cursor, and may refuse. -/
abbrev Factories := Family → Dialect → ShardingRule → Cursor → Logged (Except ParseError Parser)

/-- The factories of the built-in parsers, which refuse nothing. -/
def Factories.builtIn : Factories := fun family dialect rule _ =>
  pure (.ok (family.parser dialect.grammar rule))

/-- Chooses the factory for a statement that begins with a token of the kind, and asks it for a
parser. A word that begins no statement is reported as the token under the cursor, which the caller
may have moved. -/
def dispatch (factories : Factories) (dialect : Dialect) (kind : Kind) (rule : ShardingRule)
    (cursor : Cursor) : Logged (Except ParseError Parser) :=
  match kind with
  | .reserved word => do
    Logged.tell (.dispatching word dialect)
    match Family.ofKeyword? word with
    | some family => factories family dialect rule cursor
    | none => return .error (.unsupportedKeyword cursor.current.kind)
  | other => return .error (.unsupportedClassification other)

/-- Reads one statement from the beginning of a text, and tells the log about it. -/
def parseLogged (dialect : Dialect) (rule : ShardingRule) (text : String) :
    Logged (Except ParseError Statement) := do
  Logged.tell (.parsing dialect text)
  match Reading.advance (.ofText dialect text) with
  | .error cause _ => return .error cause
  | .ok _ cursor =>
    match ← dispatch .builtIn dialect cursor.current.kind rule cursor with
    | .error cause => return .error cause
    | .ok parser =>
      match parser cursor with
      | .ok statement _ => return .ok statement
      | .error cause _ => return .error cause

/-- Reads one statement from the beginning of a text. -/
def parse (dialect : Dialect) (rule : ShardingRule) (text : String) : Except ParseError Statement :=
  (parseLogged dialect rule text).value

end SqlSharding
