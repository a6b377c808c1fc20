import SqlSharding.Text.Grapheme

/-!
# Lines of input

Input is cut at line feeds, and a carriage return before a line feed belongs to the line end. A
backspace in a line takes back the grapheme before it. Of a grapheme of 256 bytes or more it takes back
only a part; a later backspace may then fall inside a character, and the line stands for no text.
-/

namespace SqlSharding.InputLine

/-- The line at the front of a text, without its end, and what follows it. -/
def takeLine (characters : List Char) : List Char × List Char :=
  let line := characters.takeWhile (· != '\n')
  match characters.dropWhile (· != '\n') with
  | [] => (line, [])
  | _ :: rest => (if line.getLast? = some '\r' then line.dropLast else line, rest)

/-- At most `bound` lines of a text. -/
def splitWithin : (bound : Nat) → List Char → List (List Char)
  | 0, _ => []
  | _, [] => []
  | bound + 1, characters =>
    let (line, rest) := takeLine characters
    line :: splitWithin bound rest

/-- The lines of a text. A line feed at the end of the text begins no other line. -/
def split (characters : List Char) : List (List Char) :=
  splitWithin characters.length characters

/-- The text that a line stands for, as far as it has been read. -/
structure Edit where
  /-- The characters so far, the last one first. -/
  text : List Char := []
  /-- What a backspace takes back for each grapheme, in bytes, the last one first. -/
  sizes : List Nat := []
  deriving DecidableEq

/-- The bytes that a backspace takes back for a grapheme. The number is kept in one byte, so a longer
grapheme is taken back in part. -/
def keptSize (grapheme : List Char) : Nat :=
  grapheme.foldl (fun size c => size + c.utf8Size) 0 % 256

/-- Characters, the last one first, without those in the last `size` bytes. A part of a character
cannot be left out. -/
def dropBytes? : (size : Nat) → List Char → Option (List Char)
  | 0, characters => some characters
  | _, [] => none
  | size, c :: before => if c.utf8Size ≤ size then dropBytes? (size - c.utf8Size) before else none

namespace Edit

/-- Adds a grapheme. -/
def add (edit : Edit) (grapheme : List Char) : Edit :=
  ⟨grapheme.reverse ++ edit.text, keptSize grapheme :: edit.sizes⟩

/-- Takes back the last grapheme, if there is one. -/
def backspace? (edit : Edit) : Option Edit :=
  match edit.sizes with
  | [] => some edit
  | size :: sizes => (dropBytes? size edit.text).map (⟨·, sizes⟩)

/-- Reads a grapheme of the line. -/
def step? (edit : Edit) (grapheme : List Char) : Option Edit :=
  if grapheme = ['\x08'] then edit.backspace? else some (edit.add grapheme)

end Edit

/-- The text that a line stands for. -/
def edit? (line : List Char) : Option String :=
  ((Text.Grapheme.split line).foldlM Edit.step? {}).map fun edit => String.ofList edit.text.reverse

/-- The texts of lines, up to the first line that stands for none. -/
structure Delivery where
  texts : List String
  /-- Whether a line that stands for no text follows. -/
  isBroken : Bool
  deriving DecidableEq

/-- The texts of lines. -/
def deliver : List (List Char) → Delivery
  | [] => ⟨[], false⟩
  | line :: others =>
    match edit? line with
    | some text =>
      let delivery := deliver others
      { delivery with texts := text :: delivery.texts }
    | none => ⟨[], true⟩

/-- The texts of the lines of an input. -/
def ofInput (input : String) : Delivery :=
  deliver (split input.toList)

end SqlSharding.InputLine
