import SqlSharding.Token.Dictionary
import SqlSharding.Text.Alphabetic
import SqlSharding.Text.Blank
import SqlSharding.Text.Numeric

/-!
# Scanning one lexeme

A lexeme is the longest piece at the front of a text that forms a token. Scanning is by first
character; the characters that are read are `Lexeme.written`, and what follows them is kept. A quote
that is never closed and a character that begins no token are faults.
-/

namespace SqlSharding

/-- What a dialect adds to the common lexical rules. -/
structure LexicalRules where
  /-- `#` begins a comment that ends with its line. -/
  hashComments : Bool := false
  /-- Backticks quote identifiers. -/
  backtickQuotes : Bool := false
  /-- Square brackets quote identifiers. -/
  bracketQuotes : Bool := false
  /-- `@name` and `@@name` are variables. -/
  atVariables : Bool := false
  deriving DecidableEq

/-- The lexical rules of a grammar. -/
def LexicalRules.ofGrammar : Grammar → LexicalRules
  | .mySQL => ⟨true, true, false, true⟩
  | .sqlServer => ⟨false, false, true, true⟩
  | .oracle | .postgreSQL => ⟨false, false, false, false⟩

/-- A piece at the front of a text, and the rest of the text. -/
structure Lexeme where
  kind : Kind
  /-- The characters as written, but for a string literal its value. -/
  text : List Char
  rest : List Char
  deriving DecidableEq

/-- Why no lexeme can be read. -/
inductive ScanFault
  /-- A quote is not closed before the text ends. -/
  | unclosed
  /-- No token begins with the character. -/
  | illegal (character : Char)
  deriving DecidableEq

/-- The value of a string literal with each quote in it written twice. -/
def doubleQuotes (value : List Char) : List Char :=
  value.flatMap fun c => if c = '\'' then ['\'', '\''] else [c]

/-- How a piece of this kind and text is written. -/
def Kind.written (kind : Kind) (text : List Char) : List Char :=
  if kind = .literal .chars then '\'' :: doubleQuotes text ++ ['\''] else text

/-- The characters the lexeme was read from. -/
def Lexeme.written (lexeme : Lexeme) : List Char :=
  lexeme.kind.written lexeme.text

namespace Scan

/-- Whether a character may begin an identifier. -/
def beginsIdentifier (c : Char) : Bool :=
  Text.isAlphabetic c || c == '_' || c == '$'

/-- Whether a character may continue an identifier. -/
def continuesIdentifier (c : Char) : Bool :=
  Text.isAlphabetic c || Text.isNumeric c || c == '_' || c == '$' || c == '#'

/-- Whether a character is a hexadecimal digit. -/
def isHexDigit (c : Char) : Bool :=
  c.isDigit || ('a' ≤ c && c ≤ 'f') || ('A' ≤ c && c ≤ 'F')

/-- A lexeme that is `before` and as many of the characters after it as the predicate accepts. -/
def extend (kind : Kind) (before : List Char) (accepts : Char → Bool) (characters : List Char) :
    Lexeme :=
  ⟨kind, before ++ characters.takeWhile accepts, characters.dropWhile accepts⟩

/-- A variable, of which the first `@` has been read. -/
def variableName (characters : List Char) : Lexeme :=
  let continues c := continuesIdentifier c || c == '.'
  match characters with
  | '@' :: rest => extend (.literal .sessionVariable) ['@', '@'] continues rest
  | rest => extend (.literal .sessionVariable) ['@'] continues rest

/-- A word: a keyword of the dictionary or an identifier. -/
def word (dictionary : Dictionary) (characters : List Char) : Lexeme :=
  let text := characters.takeWhile continuesIdentifier
  let kind := (dictionary.find? (String.ofList text)).getD (.literal .identifier)
  ⟨kind, text, characters.dropWhile continuesIdentifier⟩

/-- The point and the digits of a fraction, if there is a point. -/
def fraction : List Char → Option (List Char × List Char)
  | '.' :: rest => some ('.' :: rest.takeWhile Char.isDigit, rest.dropWhile Char.isDigit)
  | _ => none

/-- The mark, the sign and the digits of an exponent, if there is at least one digit. -/
def exponent : List Char → Option (List Char × List Char)
  | mark :: rest =>
    if mark = 'e' ∨ mark = 'E' then
      match rest with
      | first :: second :: more =>
        if (first = '+' ∨ first = '-') ∧ second.isDigit then
          some (mark :: first :: second :: more.takeWhile Char.isDigit, more.dropWhile Char.isDigit)
        else if first.isDigit then
          some (mark :: first :: (second :: more).takeWhile Char.isDigit,
            (second :: more).dropWhile Char.isDigit)
        else
          none
      | [digit] => if digit.isDigit then some ([mark, digit], []) else none
      | [] => none
    else
      none
  | [] => none

/-- A number: digits, then a fraction and an exponent if there are any. -/
def number (characters : List Char) : Lexeme :=
  let whole := characters.takeWhile Char.isDigit
  let afterWhole := characters.dropWhile Char.isDigit
  let (point, afterPoint) := (fraction afterWhole).getD ([], afterWhole)
  let (power, afterPower) := (exponent afterPoint).getD ([], afterPoint)
  let kind := if point.isEmpty && power.isEmpty then .literal .int else .literal .float
  ⟨kind, whole ++ point ++ power, afterPower⟩

/-- The value of a string literal up to its closing quote, and what follows the quote. Two quotes
stand for one. -/
def stringValue : List Char → Option (List Char × List Char)
  | '\'' :: '\'' :: rest => (stringValue rest).map fun (value, after) => ('\'' :: value, after)
  | c :: rest =>
    if c = '\'' then some ([], rest)
    else (stringValue rest).map fun (value, after) => (c :: value, after)
  | [] => none

/-- A string literal, of which the opening quote has been read. -/
def string (characters : List Char) : Except ScanFault Lexeme :=
  match stringValue characters with
  | some (value, rest) => .ok ⟨.literal .chars, value, rest⟩
  | none => .error .unclosed

/-- A quoted identifier, of which the opening quote has been read; nothing in it is escaped. -/
def quotedIdentifier (opening closing : Char) (characters : List Char) : Except ScanFault Lexeme :=
  match characters.dropWhile (· != closing) with
  | last :: rest =>
    .ok ⟨.literal .identifier, opening :: characters.takeWhile (· != closing) ++ [last], rest⟩
  | [] => .error .unclosed

/-- The symbol of two characters. -/
def pairSymbol? : Char → Char → Option Symbol
  | '<', '=' => some .lessEqual
  | '>', '=' => some .greaterEqual
  | '<', '>' => some .notEqual
  | '!', '=' => some .notEqual
  | '|', '|' => some .concat
  | _, _ => none

/-- The symbol of one character. -/
def singleSymbol? : Char → Option Symbol
  | '(' => some .leftParen
  | ')' => some .rightParen
  | ',' => some .comma
  | ';' => some .semicolon
  | '.' => some .dot
  | '=' => some .equals
  | '<' => some .lessThan
  | '>' => some .greaterThan
  | '+' => some .plus
  | '-' => some .minus
  | '*' => some .multiply
  | '/' => some .divide
  | '%' => some .modulo
  | '?' => some .question
  | _ => none

/-- A symbol that begins with `first`; two characters are preferred to one. -/
def symbol (first : Char) (rest : List Char) : Except ScanFault Lexeme :=
  match rest.head?.bind (pairSymbol? first) with
  | some symbol => .ok ⟨.symbol symbol, first :: rest.take 1, rest.drop 1⟩
  | none =>
    match singleSymbol? first with
    | some symbol => .ok ⟨.symbol symbol, [first], rest⟩
    | none => .error (.illegal first)

/-- The lexeme that begins with the character `first`, which is followed by `rest`. -/
def lexeme (rules : LexicalRules) (dictionary : Dictionary) (first : Char) (rest : List Char) :
    Except ScanFault Lexeme :=
  if first = '@' ∧ rules.atVariables then .ok (variableName rest)
  else if beginsIdentifier first then .ok (word dictionary (first :: rest))
  else if first = '0' ∧ (rest.head? = some 'x' ∨ rest.head? = some 'X') then
    .ok (extend (.literal .hex) (first :: rest.take 1) isHexDigit (rest.drop 1))
  else if first.isDigit ∨ first = '.' ∧ rest.head?.any Char.isDigit then .ok (number (first :: rest))
  else if first = '\'' then string rest
  else if first = '"' then quotedIdentifier '"' '"' rest
  else if first = '\x60' ∧ rules.backtickQuotes then quotedIdentifier '\x60' '\x60' rest
  else if first = '[' ∧ rules.bracketQuotes then quotedIdentifier '[' ']' rest
  else symbol first rest

end Scan

end SqlSharding
