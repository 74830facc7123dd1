import Signpost.Toml.Text
import Signpost.Toml.Tree

/-!
# Reading TOML

A document is a sequence of lines, each empty, a header or an assignment, with comments behind them.
Lists and tables written inline may go over several lines, with comments between their parts.

## Main definitions

* `Toml.readKeys?`: reads a dotted key.
* `Toml.readValue?`: reads a value.
* `Toml.parse?`: reads a document.
-/

namespace Signpost.Toml

/-- The text without white space in front. -/
def skipSpace (text : Text) : Text :=
  text.dropWhile isSpace

/-- Reads the end of a line behind white space and a comment. The end of the text is one too. -/
def readLineEnd? (text : Text) : Option Text :=
  let text := skipSpace text
  let rest :=
    match text with
    | '#' :: comment => comment.dropWhile isAllowed
    | text => text
  if rest = [] then some [] else readBreak? rest

/-- Skips white space, comments and at most `steps` line ends. -/
def skipLinesUpTo? : (steps : Nat) → Text → Option Text
  | 0, text => some text
  | steps + 1, text =>
    let text := skipSpace text
    match text with
    | '#' :: _ | '\n' :: _ | '\r' :: _ => do skipLinesUpTo? steps (← readLineEnd? text)
    | text => some text

/-- Skips white space, comments and line ends. -/
def skipLines? (text : Text) : Option Text :=
  skipLinesUpTo? (text.length + 1) text

/-- A character of a key without quotes. -/
def isKeyChar (c : Char) : Bool :=
  Character.isAsciiAlphanumeric c || c = '_' || c = '-'

/-- Reads one part of a key. -/
def readKey? (text : Text) : Option (Text × Text) :=
  match text with
  | '"' :: _ | '\'' :: _ => readShort? text
  | text =>
    let key := text.takeWhile isKeyChar
    if key = [] then none else some (key, text.dropWhile isKeyChar)

/-- The greatest number of parts of a key, and the greatest number of lists and inline tables inside
one another. -/
def nestingLimit : Nat := 80

/-- Reads a dotted key of at most `limit` parts with white space around them. -/
def readParts? : (limit : Nat) → Text → Option (List Text × Text)
  | 0, _ => none
  | limit + 1, text => do
    let (key, rest) ← readKey? (skipSpace text)
    match skipSpace rest with
    | '.' :: rest =>
      let (keys, rest) ← readParts? limit rest
      return (key :: keys, rest)
    | rest => return ([key], rest)

/-- Splits a key into the path and its last part. -/
def splitLast? (keys : List Text) : Option (List Text × Text) :=
  match keys.reverse with
  | [] => none
  | key :: path => some (path.reverse, key)

/-- Reads a key into the path and its last part. -/
def readKeys? (text : Text) : Option ((List Text × Text) × Text) := do
  let (keys, rest) ← readParts? nestingLimit text
  return (← splitLast? keys, rest)

/-- Whether an unquoted value ends in front of `c`. -/
def endsScalar (c : Char) : Bool :=
  isSpace c || c = '\n' || c = '\r' || c = ',' || c = ']' || c = '}' || c = '#'

/-- The unquoted value in front of a text. A date may be followed by a space and a time. -/
def splitScalar (text : Text) : Text × Text :=
  let scalar := text.takeWhile (!endsScalar ·)
  match text.dropWhile (!endsScalar ·) with
  | ' ' :: c :: rest =>
    match readDate? scalar with
    | some (_, []) =>
      if Character.isDigit c then
        let time := (c :: rest).takeWhile (!endsScalar ·)
        (scalar ++ ' ' :: time, (c :: rest).dropWhile (!endsScalar ·))
      else (scalar, ' ' :: c :: rest)
    | _ => (scalar, ' ' :: c :: rest)
  | rest => (scalar, rest)

mutual

/-- Reads a value. `depth` more lists or inline tables may be entered; `steps` bounds the
recursion. -/
def readValue? (depth steps : Nat) (text : Text) : Option (Json × Text) :=
  match steps with
  | 0 => none
  | steps + 1 =>
    match text with
    | [] => none
    | c :: rest =>
      if c = '"' ∨ c = '\'' then (readQuoted? text).map fun read => (.text read.1, read.2)
      else if c = '[' then
        if depth = 0 then none
        else (readItems? (depth - 1) steps rest).map fun read => (.list read.1, read.2)
      else if c = '{' then
        if depth = 0 then none
        else
          (readInline? (depth - 1) steps [] rest).bind fun read =>
            (Node.table .header read.1).toJson?.map fun value => (value, read.2)
      else
        let (scalar, rest) := splitScalar text
        (readScalar? scalar).map fun value => (value, rest)

/-- Reads the items of a list up to its end. A comma may follow the last one. -/
def readItems? (depth steps : Nat) (text : Text) : Option (List Json × Text) :=
  match steps with
  | 0 => none
  | steps + 1 => do
    let text ← skipLines? text
    match text with
    | ']' :: rest => return ([], rest)
    | text =>
      let (item, rest) ← readValue? depth steps text
      let rest ← skipLines? rest
      match rest with
      | ',' :: rest =>
        let (items, rest) ← readItems? depth steps rest
        return (item :: items, rest)
      | ']' :: rest => return ([item], rest)
      | _ => none

/-- Reads the assignments of an inline table up to its end, behind those already read. A comma may
follow the last one. -/
def readInline? (depth steps : Nat) (entries : Entries) (text : Text) : Option (Entries × Text) :=
  match steps with
  | 0 => none
  | steps + 1 => do
    let text ← skipLines? text
    match text with
    | '}' :: rest => return (entries, rest)
    | text =>
      let ((path, key), rest) ← readKeys? text
      let rest ← skipLines? rest
      let rest ← readChar? '=' rest
      let rest ← skipLines? rest
      let (value, rest) ← readValue? depth steps rest
      let entries ← assign? entries path key value
      let rest ← skipLines? rest
      match rest with
      | ',' :: rest => readInline? depth steps entries rest
      | '}' :: rest => return (entries, rest)
      | _ => none

end

/-- Reads the key of a header up to its closing brackets. -/
def readHeader? (brackets text : Text) : Option (List Text × Text × Text) := do
  let ((path, key), rest) ← readKeys? text
  let rest ← Text.stripLead? brackets rest
  return (path, key, rest)

/-- Reads the rest of a document. Assignments go to the table that `header` leads to. -/
def readLines? (root : Entries) (header : List Text) :
    (steps : Nat) → Text → Option Entries
  | 0, _ => none
  | steps + 1, text => do
    match ← skipLines? text with
    | [] => return root
    | '[' :: '[' :: rest =>
      let (path, key, rest) ← readHeader? [']', ']'] rest
      let root ← changeAt? (openElement? key) root path
      readLines? root (path ++ [key]) steps (← readLineEnd? rest)
    | '[' :: rest =>
      let (path, key, rest) ← readHeader? [']'] rest
      let root ← changeAt? (openTable? key) root path
      readLines? root (path ++ [key]) steps (← readLineEnd? rest)
    | text =>
      let ((path, key), rest) ← readKeys? text
      let rest ← readChar? '=' rest
      let (value, rest) ← readValue? nestingLimit (2 * rest.length + 2) (skipSpace rest)
      let root ← changeAt? (fun entries => assign? entries path key value) root header
      readLines? root header steps (← readLineEnd? rest)

/-- Reads a document; a byte order mark at its start is passed over. -/
def parse? (text : Text) : Option (Table Json) := do
  let text := (Text.stripLead? [Char.ofNat 0xfeff] text).getD text
  let root ← readLines? [] [] (text.length + 1) text
  return Table.ofList (← entriesToJson? root)

end Signpost.Toml
