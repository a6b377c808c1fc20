/-!
# Strings in JSON

A string is written between quotation marks. `encode` escapes the quotation mark, the backslash and
the control characters; `decode?` reads every escape that JSON has, among them a pair of surrogates
for one character.
-/

namespace SqlSharding.Json.Text

/-- The hexadecimal digit of a number below sixteen. -/
def hexDigit (value : Nat) : Char :=
  Nat.digitChar value

/-- How a character is written in a string. -/
def encodeChar (c : Char) : List Char :=
  match c with
  | '"' => ['\\', '"']
  | '\\' => ['\\', '\\']
  | '\n' => ['\\', 'n']
  | '\r' => ['\\', 'r']
  | '\t' => ['\\', 't']
  | '\x08' => ['\\', 'b']
  | '\x0c' => ['\\', 'f']
  | c =>
    if c.toNat < 32 then
      ['\\', 'u', '0', '0', hexDigit (c.toNat / 16), hexDigit (c.toNat % 16)]
    else
      [c]

/-- The written form of a string, with its quotation marks. -/
def encode (characters : List Char) : List Char :=
  '"' :: characters.flatMap encodeChar ++ ['"']

/-- A piece of a string. -/
inductive Piece
  | character (c : Char)
  /-- The number after `\u`, which may be one half of a pair. -/
  | unit (value : Nat)
  deriving DecidableEq

/-- The value of a hexadecimal digit. -/
def hexValue? (c : Char) : Option Nat :=
  if c.isDigit then some (c.toNat - '0'.toNat)
  else if 'a' ≤ c ∧ c ≤ 'f' then some (c.toNat - 'a'.toNat + 10)
  else if 'A' ≤ c ∧ c ≤ 'F' then some (c.toNat - 'A'.toNat + 10)
  else none

/-- The value of four hexadecimal digits. -/
def unitValue? (first second third fourth : Char) : Option Nat := do
  return (((← hexValue? first) * 16 + (← hexValue? second)) * 16 + (← hexValue? third)) * 16 +
    (← hexValue? fourth)

/-- The character after a backslash that stands for one character. -/
def escaped? : Char → Option Char
  | '"' => some '"'
  | '\\' => some '\\'
  | '/' => some '/'
  | 'b' => some '\x08'
  | 'f' => some '\x0c'
  | 'n' => some '\n'
  | 'r' => some '\r'
  | 't' => some '\t'
  | _ => none

/-- The pieces up to the closing quotation mark, and what follows it. Control characters have to be
escaped. -/
def pieces? : List Char → Option (List Piece × List Char)
  | [] => none
  | '\\' :: 'u' :: first :: second :: third :: fourth :: rest => do
    let value ← unitValue? first second third fourth
    let (pieces, after) ← pieces? rest
    return (.unit value :: pieces, after)
  | '\\' :: mark :: rest => do
    let c ← escaped? mark
    let (pieces, after) ← pieces? rest
    return (.character c :: pieces, after)
  | c :: rest =>
    if c = '"' then some ([], rest)
    else if c.toNat < 32 ∨ c = '\\' then none
    else do
      let (pieces, after) ← pieces? rest
      return (.character c :: pieces, after)

/-- The characters that pieces stand for. The first half of a pair has to be followed by the second,
and the second has to follow the first. -/
def join? : List Piece → Option (List Char)
  | [] => some []
  | .character c :: rest => (join? rest).map (c :: ·)
  | .unit high :: .unit low :: rest =>
    if 0xD800 ≤ high ∧ high < 0xDC00 then
      if 0xDC00 ≤ low ∧ low < 0xE000 then
        (join? rest).map (Char.ofNat (0x10000 + (high - 0xD800) * 0x400 + (low - 0xDC00)) :: ·)
      else
        none
    else if 0xDC00 ≤ high ∧ high < 0xE000 then none
    else (join? (.unit low :: rest)).map (Char.ofNat high :: ·)
  | .unit value :: rest =>
    if 0xD800 ≤ value ∧ value < 0xE000 then none
    else (join? rest).map (Char.ofNat value :: ·)

/-- The string whose opening quotation mark has been read, and what follows it. -/
def decode? (characters : List Char) : Option (List Char × List Char) := do
  let (pieces, after) ← pieces? characters
  return (← join? pieces, after)

end SqlSharding.Json.Text
