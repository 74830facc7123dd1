import Signpost.Character.Case
import Signpost.Text.Basic

/-!
# Letter case of text

Upper and lower case over whole texts. Lower case looks at the neighbours of one letter only: a
capital sigma becomes a final sigma when a letter with case stands before it and none after it,
both sought past the characters that are ignored for case.

## Main definitions

* `Text.toUpper`, `Text.toLower`: the full mappings.
* `Text.toAsciiUpper`, `Text.toAsciiLower`: the mappings of ASCII letters alone.
-/

namespace Signpost.Text

/-- The text in upper case. -/
def toUpper (text : Text) : Text :=
  text.flatMap Character.upper

private def meetsCased (text : Text) : Bool :=
  match text.dropWhile Character.isCaseIgnorable with
  | [] => false
  | c :: _ => Character.isCased c

/-- The lower-case form of what follows `before`, which holds the characters already read, the last
one first. -/
def lowerAfter (before : Text) : Text → Text
  | [] => []
  | c :: rest =>
    (if c = 'Σ' then [if meetsCased before && !meetsCased rest then 'ς' else 'σ']
      else Character.lower c) ++ lowerAfter (c :: before) rest

/-- The text in lower case. -/
def toLower (text : Text) : Text :=
  lowerAfter [] text

/-- The text with its ASCII letters in upper case. -/
def toAsciiUpper (text : Text) : Text :=
  text.map Character.asciiUpper

/-- The text with its ASCII letters in lower case. -/
def toAsciiLower (text : Text) : Text :=
  text.map Character.asciiLower

end Signpost.Text
