import SqlSharding.Cursor.Skip
import SqlSharding.Statement

/-!
# Names of tables and columns

A name may have several parts between dots, of which the last one counts. A table may have an alias;
without the word `AS` only an identifier is an alias.
-/

namespace SqlSharding.Reading

/-- Reads a token that may be a name. -/
def namePart : Reading Token := do
  let token ← current
  if token.kind.isName then
    advance
    return token
  else
    unexpected

/-- Reads the parts of a name and gives the last one. -/
def qualifiedName : Reading Token := do
  repeatTurns (fun last => do
    if ← skipIf [.symbol .dot] then
      return .again (← namePart)
    else
      return .done last) (← namePart)

/-- Reads the name of a table. -/
def tableMark : Reading TableMark := do
  let token ← qualifiedName
  return ⟨token.start, token.text⟩

/-- Reads the name of a column. -/
def columnName : Reading String := do
  return unquote (← qualifiedName).text

/-- Reads an alias, if there is one. -/
def alias? : Reading (Option String) := do
  if ← skipIf [.reserved .AS] then
    return some (unquote (← namePart).text)
  else if ← isOn [.literal .identifier] then
    return some (unquote (← namePart).text)
  else
    return none

/-- Reads a table without an alias. -/
def plainTable : Reading TableReference := do
  return ⟨← tableMark, none⟩

/-- Reads a table with an alias, if there is one. -/
def aliasedTable : Reading TableReference := do
  return ⟨← tableMark, ← alias?⟩

end SqlSharding.Reading
