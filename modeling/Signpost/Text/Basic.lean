import Signpost.Character.Class

/-!
# Text

Everything this library reads or writes is scanned character by character, so text is a list of
characters. This file holds the operations on it that know nothing of links: cutting at a
separator, trimming, replacing a pattern.

## Main definitions

* `Text`: a list of characters.
* `Text.splitOn`, `Text.splitOnce?`, `Text.join`: cutting at a separator and joining again.
* `Text.segments`: the non-empty parts between slashes.
* `Text.trim`: without white space at both ends.
* `Text.replaceAll`: every occurrence of a pattern replaced.
-/

namespace Signpost

/-- Text as the library scans it. -/
abbrev Text := List Char

namespace Text

/-- The parts of a text between occurrences of `sep`; there is always at least one. -/
def splitOn (sep : Char) : Text → List Text
  | [] => [[]]
  | c :: rest =>
    if c = sep then [] :: splitOn sep rest
    else
      match splitOn sep rest with
      | [] => [[c]]
      | part :: parts => (c :: part) :: parts

/-- The parts joined by `sep`. -/
def join (sep : Text) : List Text → Text
  | [] => []
  | [part] => part
  | part :: parts => part ++ sep ++ join sep parts

/-- The two sides of the first `sep`, if there is one. -/
def splitOnce? (sep : Char) : Text → Option (Text × Text)
  | [] => none
  | c :: rest =>
    if c = sep then some ([], rest)
    else (splitOnce? sep rest).map fun sides => (c :: sides.1, sides.2)

/-- The non-empty parts of a path between slashes. -/
def segments (path : Text) : List Text :=
  (splitOn '/' path).filter (· ≠ [])

/-- The text without the characters satisfying `p` at its end. -/
def dropEndWhile (p : Char → Bool) (text : Text) : Text :=
  (text.reverse.dropWhile p).reverse

/-- The text without white space at its end. -/
def trimEnd (text : Text) : Text :=
  text.dropEndWhile Character.isBlank

/-- The text without white space at its start. -/
def trimStart (text : Text) : Text :=
  text.dropWhile Character.isBlank

/-- The text without white space at either end. -/
def trim (text : Text) : Text :=
  text.trimStart.trimEnd

/-- The text without the character `c` at either end. -/
def trimOf (c : Char) (text : Text) : Text :=
  dropEndWhile (· = c) (text.dropWhile (· = c))

/-- What follows `lead`, if the text starts with it. -/
def stripLead? : (lead text : Text) → Option Text
  | [], text => some text
  | _ :: _, [] => none
  | l :: lead, c :: text => if l = c then stripLead? lead text else none

/-- What stands in front of `tail`, if the text ends with it. -/
def stripTail? (tail text : Text) : Option Text :=
  (stripLead? tail.reverse text.reverse).map List.reverse

/-- Whether `pattern` occurs in the text. -/
def hasInfix (pattern : Text) : Text → Bool
  | [] => pattern.isEmpty
  | c :: rest => pattern.isPrefixOf (c :: rest) || hasInfix pattern rest

/-- The text up to the end of the first occurrence of `pattern`, if there is one. -/
def upTo? (pattern : Text) : Text → Option Text
  | [] => if pattern = [] then some [] else none
  | c :: rest =>
    if pattern.isPrefixOf (c :: rest) then some pattern
    else (upTo? pattern rest).map fun before => c :: before

/-- The text with every occurrence of `pattern` replaced, after the first `skip` characters, which
are dropped. -/
def replaceFrom (pattern new : Text) : (skip : Nat) → Text → Text
  | _, [] => []
  | skip + 1, _ :: rest => replaceFrom pattern new skip rest
  | 0, c :: rest =>
    if pattern ≠ [] ∧ pattern.isPrefixOf (c :: rest) then
      new ++ replaceFrom pattern new (pattern.length - 1) rest
    else c :: replaceFrom pattern new 0 rest

/-- Every occurrence of `pattern`, found from the left without overlap, replaced by `new`. The empty
pattern is found nowhere. -/
def replaceAll (pattern new text : Text) : Text :=
  replaceFrom pattern new 0 text

/-- The decimal digits of a natural number. -/
def ofNat (n : Nat) : Text :=
  Nat.toDigits 10 n

/-- The decimal digits of an integer, after a sign if it is negative. -/
def ofInt : Int → Text
  | .ofNat n => ofNat n
  | .negSucc n => '-' :: ofNat (n + 1)

/-- The number that a non-empty run of decimal digits denotes. -/
def toNat? (digits : Text) : Option Nat :=
  if digits ≠ [] ∧ digits.all Character.isDigit then
    some (digits.foldl (fun n c => 10 * n + (c.toNat - '0'.toNat)) 0)
  else none

/-- The text with zeros in front until it has `width` characters. -/
def padLeft (width : Nat) (text : Text) : Text :=
  List.replicate (width - text.length) '0' ++ text

/-- The characters of a text in UTF-8. -/
def utf8 (text : Text) : List UInt8 :=
  text.flatMap String.utf8EncodeChar

end Text

end Signpost
