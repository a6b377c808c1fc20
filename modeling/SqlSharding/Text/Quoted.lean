import SqlSharding.Text.Printable

/-!
# Quoted texts in messages

A text in a message stands between quotation marks. The quotation mark, the backslash, the usual
control characters and the null character have short escapes, and all other characters that are not
printable are shown by their number.
-/

namespace SqlSharding.Text

/-- How a character is shown in a quoted text. -/
def quotedChar (c : Char) : List Char :=
  match c with
  | '\x00' => ['\\', '0']
  | '\t' => ['\\', 't']
  | '\r' => ['\\', 'r']
  | '\n' => ['\\', 'n']
  | '"' => ['\\', '"']
  | '\\' => ['\\', '\\']
  | c =>
    if isPrintable c then [c]
    else "\\u\x7b".toList ++ Nat.toDigits 16 c.toNat ++ "\x7d".toList

/-- A text between quotation marks. -/
def quoted (text : String) : String :=
  String.ofList ('"' :: text.toList.flatMap quotedChar ++ ['"'])

end SqlSharding.Text
