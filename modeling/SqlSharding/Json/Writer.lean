import SqlSharding.Json.Text

/-!
# Writing JSON

Values are written without blanks.
-/

namespace SqlSharding.Json.Writer

/-- A string. -/
def text (value : String) : List Char :=
  Text.encode value.toList

/-- A string or null. -/
def text? : Option String → List Char
  | some value => text value
  | none => ['n', 'u', 'l', 'l']

/-- Written items with commas between them. -/
def separated : List (List Char) → List Char
  | [] => []
  | [item] => item
  | item :: others => item ++ ',' :: separated others

/-- A list of written items. -/
def list (items : List (List Char)) : List Char :=
  '[' :: separated items ++ [']']

/-- An object of names with their written values. -/
def object (members : List (String × List Char)) : List Char :=
  '\x7b' :: separated (members.map fun (name, value) => text name ++ ':' :: value) ++ ['\x7d']

end SqlSharding.Json.Writer
