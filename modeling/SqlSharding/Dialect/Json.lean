import SqlSharding.Dialect
import SqlSharding.Json.Reader
import SqlSharding.Json.Writer

/-!
# Dialects in JSON

A dialect is written as its name. It may also be read from an object with the name and null.
-/

namespace SqlSharding.Dialect

open Json

/-- Reads the name of a dialect whose quotation mark comes next. -/
def nameReader : Reader Dialect := do
  let name ← Reader.string
  match ofConfigName? name with
  | some dialect => return dialect
  | none => Reader.refuse (.unknownVariant name (all.map (·.configName)))

/-- Reads the null that goes with a name in an object. -/
def nullReader : Reader Unit := do
  Reader.skipSpace
  if (← Reader.peek?) = some 'n' then
    Reader.literal ['n', 'u', 'l', 'l']
  else
    Reader.wrongType "unit"

/-- Reads a dialect. -/
def reader : Reader Dialect := do
  Reader.skipSpace
  match ← Reader.peek? with
  | some '"' => nameReader
  | some '\x7b' => do
    Reader.drop
    Reader.skipSpace
    let dialect ← if (← Reader.peek?) = some '"' then nameReader else Reader.malformed
    Reader.skipSpace
    Reader.literal [':']
    nullReader
    Reader.close '\x7d'
    return dialect
  | _ => Reader.malformed

/-- The dialect of a text. -/
def ofJson (text : String) : Except Fault Dialect :=
  reader.run text

/-- The written form of a dialect. -/
def toJson (dialect : Dialect) : String :=
  String.ofList (Writer.text dialect.configName)

end SqlSharding.Dialect
