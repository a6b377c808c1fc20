import SqlSharding.Text.Grapheme.Break

/-!
# Graphemes

A grapheme is what a reader takes for one character: a letter with its accents, a syllable, a flag or
a family of joined pictographs. A text is cut into graphemes by the rules for extended grapheme
clusters, and no character is lost.
-/

namespace SqlSharding.Text.Grapheme

/-- Whether a sign may stand between a consonant and the sign that links it to another; the
non-joiner keeps consonants apart. -/
def keepsLink (c : Char) : Bool :=
  (breakOf c = .extend || breakOf c = .joiner) && c != '\u200c'

/-- Whether a grapheme, listed last character first, ends with a consonant and at least one sign that
links it to another. -/
def endsLinked (isLinked : Bool) : List Char → Bool
  | [] => false
  | c :: before =>
    if linkers.contains c.toNat then endsLinked true before
    else if CodePoints.covers consonantRanges c then isLinked
    else if keepsLink c then endsLinked isLinked before
    else false

/-- Whether a grapheme, listed last character first, ends with a pictograph and a joiner. -/
def endsJoined : List Char → Bool
  | [] => false
  | c :: before =>
    breakOf c = .joiner &&
      ((before.dropWhile (breakOf · = .extend)).head?.any (CodePoints.covers pictographRanges))

/-- Whether a grapheme, listed last character first, goes on with a character. -/
def joins (grapheme : List Char) (next : Char) : Bool :=
  match grapheme with
  | [] => true
  | last :: _ =>
    match breakOf last, breakOf next with
    | .carriageReturn, .lineFeed => true
    | .carriageReturn, _ | .lineFeed, _ | .control, _ => false
    | _, .carriageReturn | _, .lineFeed | _, .control => false
    | .leading, .leading | .leading, .vowel | .leading, .leadingVowel
    | .leading, .leadingVowelTrailing => true
    | .leadingVowel, .vowel | .leadingVowel, .trailing | .vowel, .vowel | .vowel, .trailing => true
    | .leadingVowelTrailing, .trailing | .trailing, .trailing => true
    | _, .extend | _, .joiner | _, .spacingMark => true
    | .prepend, _ => true
    | .regionalIndicator, .regionalIndicator =>
      (grapheme.takeWhile (breakOf · = .regionalIndicator)).length % 2 = 1
    | _, _ =>
      endsJoined grapheme && CodePoints.covers pictographRanges next ||
        endsLinked false grapheme && CodePoints.covers consonantRanges next

/-- The graphemes of a text that follow the characters of an unfinished one, which are listed last
one first. -/
def splitAfter (grapheme : List Char) : List Char → List (List Char)
  | [] => if grapheme.isEmpty then [] else [grapheme.reverse]
  | c :: rest =>
    if joins grapheme c then splitAfter (c :: grapheme) rest
    else grapheme.reverse :: splitAfter [c] rest

/-- The graphemes of a text. -/
def split (characters : List Char) : List (List Char) :=
  splitAfter [] characters

end SqlSharding.Text.Grapheme
