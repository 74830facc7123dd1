import Signpost.Text.Basic

/-!
# Texts of TOML

Quoted texts, on one line or on several, with escapes or without. A text on several lines drops a
line end behind its opening quotes, holds every other line end as it is written, and may end in up
to two quotes of its own. A carriage return is part of a line end only, in front of a line feed.

## Main definitions

* `Toml.readEscape?`: reads an escape behind its backslash.
* `Toml.readBasic?`, `Toml.readLiteral?`: texts on one line.
* `Toml.readLongBasic?`, `Toml.readLongLiteral?`: texts on several lines.
* `Toml.readQuoted?`: reads any of them.
-/

namespace Signpost.Toml

/-- Whether a text or comment may hold `c`: any character but the controls; the tab is allowed. -/
def isAllowed (c : Char) : Bool :=
  c = '\t' || (32 ≤ c.toNat && c.toNat ≠ 127)

/-- The character whose code is written in the first `count` hexadecimal digits of a text. -/
def readCode? (count : Nat) (text : Text) : Option (Char × Text) := do
  let digits := text.take count
  guard (digits.length = count)
  let n ← digits.foldlM (fun n c => (Character.hexValue? c).map (16 * n + ·)) 0
  guard (n < 0xd800 ∨ 0xdfff < n ∧ n < 0x110000)
  return (Char.ofNat n, text.drop count)

/-- Reads an escape behind its backslash. -/
def readEscape? (text : Text) : Option (Char × Text) :=
  match text with
  | [] => none
  | c :: rest =>
    if c = '"' ∨ c = '\\' then some (c, rest)
    else if c = 'b' then some (Char.ofNat 8, rest)
    else if c = 't' then some ('\t', rest)
    else if c = 'n' then some ('\n', rest)
    else if c = 'f' then some (Char.ofNat 12, rest)
    else if c = 'r' then some ('\r', rest)
    else if c = 'e' then some (Char.ofNat 27, rest)
    else if c = 'x' then readCode? 2 rest
    else if c = 'u' then readCode? 4 rest
    else if c = 'U' then readCode? 8 rest
    else none

private def cons (c : Char) (read : Text × Text) : Text × Text :=
  (c :: read.1, read.2)

/-- Reads a text with escapes behind its opening quote. `steps` bounds the recursion. -/
def readBasic? (steps : Nat) (text : Text) : Option (Text × Text) :=
  match steps, text with
  | _, [] | 0, _ => none
  | steps + 1, c :: rest =>
    if c = '"' then some ([], rest)
    else if c = '\\' then do
      let (c, rest) ← readEscape? rest
      return cons c (← readBasic? steps rest)
    else if isAllowed c then (readBasic? steps rest).map (cons c)
    else none

/-- Reads a text without escapes behind its opening quote. -/
def readLiteral? : Text → Option (Text × Text)
  | [] => none
  | c :: rest =>
    if c = '\'' then some ([], rest)
    else if isAllowed c then (readLiteral? rest).map (cons c)
    else none

/-- The text behind a line end at its start, if there is one. -/
def readBreak? (text : Text) : Option Text :=
  match text with
  | '\n' :: rest | '\r' :: '\n' :: rest => some rest
  | _ => none

/-- White space within a line. -/
def isSpace (c : Char) : Bool :=
  c = ' ' || c = '\t'

/-- The text without white space and line ends in front. -/
def dropBreaks : Text → Text
  | [] => []
  | '\r' :: '\n' :: rest => dropBreaks rest
  | c :: rest => if isSpace c ∨ c = '\n' then dropBreaks rest else c :: rest

/-- What follows a backslash that ends its line: the next character that is neither white space nor
a line end. -/
def continueLine? (text : Text) : Option Text :=
  (readBreak? (text.dropWhile isSpace)).map dropBreaks

/-- What the quotes at the end of a text on several lines leave to the text: of three to five, all
but three. -/
def closing? (quote : Char) (text : Text) : Option (Text × Text) :=
  let quotes := (text.take 5).takeWhile (· = quote)
  if quotes.length < 3 then none else some (quotes.drop 3, text.drop quotes.length)

/-- Reads a text on several lines with escapes behind its opening quotes. -/
def readLongBasic? (steps : Nat) (text : Text) : Option (Text × Text) :=
  match steps, text with
  | _, [] | 0, _ => none
  | steps + 1, c :: rest =>
    match closing? '"' (c :: rest) with
    | some read => some read
    | none =>
      if c = '\\' then
        match continueLine? rest with
        | some rest => readLongBasic? steps rest
        | none => do
          let (c, rest) ← readEscape? rest
          return cons c (← readLongBasic? steps rest)
      else if isAllowed c ∨ (readBreak? (c :: rest)).isSome then
        (readLongBasic? steps rest).map (cons c)
      else none

/-- Reads a text on several lines without escapes behind its opening quotes. -/
def readLongLiteral? (steps : Nat) (text : Text) : Option (Text × Text) :=
  match steps, text with
  | _, [] | 0, _ => none
  | steps + 1, c :: rest =>
    match closing? '\'' (c :: rest) with
    | some read => some read
    | none =>
      if isAllowed c ∨ (readBreak? (c :: rest)).isSome then
        (readLongLiteral? steps rest).map (cons c)
      else none

/-- Reads a quoted text on one line, the opening quote included. -/
def readShort? (text : Text) : Option (Text × Text) :=
  match text with
  | '"' :: rest => readBasic? (rest.length + 1) rest
  | '\'' :: rest => readLiteral? rest
  | _ => none

/-- Reads a quoted text, the opening quotes included. -/
def readQuoted? (text : Text) : Option (Text × Text) :=
  match text with
  | '"' :: '"' :: '"' :: rest => readLongBasic? (rest.length + 1) ((readBreak? rest).getD rest)
  | '\'' :: '\'' :: '\'' :: rest =>
    readLongLiteral? (rest.length + 1) ((readBreak? rest).getD rest)
  | text => readShort? text

end Signpost.Toml
