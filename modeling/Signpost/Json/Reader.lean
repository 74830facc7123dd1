import Signpost.Json.Number

/-!
# Reading JSON

A document is one value with white space around it. Lists and objects may be nested up to a limit.
Under a key that occurs twice in an object the last value counts.

## Main definitions

* `Json.readText?`: reads a quoted text behind its opening quote.
* `Json.parse?`: reads a document.
-/

namespace Signpost.Json

/-- The white space of JSON. -/
def isSpace (c : Char) : Bool :=
  c = ' ' || c = '\n' || c = '\t' || c = '\r'

/-- The text without white space in front. -/
def skipSpace (text : Text) : Text :=
  text.dropWhile isSpace

/-- The number that four hexadecimal digits denote. -/
def hexFour? (a b c d : Char) : Option Nat := do
  return 4096 * (← Character.hexValue? a) + 256 * (← Character.hexValue? b) +
    16 * (← Character.hexValue? c) + (← Character.hexValue? d)

/-- The character that a letter behind a backslash stands for. -/
def escaped? (c : Char) : Option Char :=
  if c = '"' ∨ c = '\\' ∨ c = '/' then some c
  else if c = 'b' then some (Char.ofNat 8)
  else if c = 'f' then some (Char.ofNat 12)
  else if c = 'n' then some '\n'
  else if c = 'r' then some '\r'
  else if c = 't' then some '\t'
  else none

/-- Reads a quoted text behind its opening quote. A character beyond sixteen bits may be written as
a pair of escapes; half a pair is refused. -/
def readText? : Text → Option (Text × Text)
  | [] => none
  | c :: rest =>
    let cons (c : Char) (read : Text × Text) : Text × Text := (c :: read.1, read.2)
    if c = '"' then some ([], rest)
    else if c.toNat < 32 then none
    else if c = '\\' then
      match rest with
      | 'u' :: a₁ :: b₁ :: c₁ :: d₁ :: rest =>
        match hexFour? a₁ b₁ c₁ d₁ with
        | none => none
        | some n =>
          if 0xd800 ≤ n ∧ n < 0xdc00 then
            match rest with
            | '\\' :: 'u' :: a₂ :: b₂ :: c₂ :: d₂ :: rest =>
              match hexFour? a₂ b₂ c₂ d₂ with
              | none => none
              | some m =>
                if 0xdc00 ≤ m ∧ m < 0xe000 then
                  (readText? rest).map
                    (cons (Char.ofNat (0x10000 + 1024 * (n - 0xd800) + (m - 0xdc00))))
                else none
            | _ => none
          else if 0xdc00 ≤ n ∧ n < 0xe000 then none
          else (readText? rest).map (cons (Char.ofNat n))
      | e :: rest =>
        match escaped? e with
        | some d => (readText? rest).map (cons d)
        | none => none
      | [] => none
    else (readText? rest).map (cons c)

/-- The values written as words, and numbers. -/
def readAtom? (text : Text) : Option (Json × Text) :=
  match Text.stripLead? "null".toList text with
  | some rest => some (.null, rest)
  | none =>
    match Text.stripLead? "true".toList text with
    | some rest => some (.bool true, rest)
    | none =>
      match Text.stripLead? "false".toList text with
      | some rest => some (.bool false, rest)
      | none => (readNumber? text).map fun read => (.number read.1, read.2)

mutual

/-- Reads a value. `depth` more lists or objects may be entered; `steps` bounds the recursion. -/
def readValue? (depth steps : Nat) (text : Text) : Option (Json × Text) :=
  match steps with
  | 0 => none
  | steps + 1 =>
    match skipSpace text with
    | [] => none
    | c :: rest =>
      if c = '"' then (readText? rest).map fun read => (.text read.1, read.2)
      else if c = '[' then
        if depth ≤ 1 then none
        else
          match skipSpace rest with
          | ']' :: rest => some (.list [], rest)
          | rest => (readItems? (depth - 1) steps rest).map fun read => (.list read.1, read.2)
      else if c = '{' then
        if depth ≤ 1 then none
        else
          match skipSpace rest with
          | '}' :: rest => some (.object [], rest)
          | rest =>
            (readEntries? (depth - 1) steps rest).map fun read =>
              (.object (Table.ofList read.1), read.2)
      else readAtom? (c :: rest)

/-- Reads the items of a list up to its end. -/
def readItems? (depth steps : Nat) (text : Text) : Option (List Json × Text) :=
  match steps with
  | 0 => none
  | steps + 1 => do
    let (item, rest) ← readValue? depth steps text
    match skipSpace rest with
    | ']' :: rest => return ([item], rest)
    | ',' :: rest =>
      let (items, rest) ← readItems? depth steps rest
      return (item :: items, rest)
    | _ => none

/-- Reads the entries of an object up to its end. -/
def readEntries? (depth steps : Nat) (text : Text) : Option (List (Text × Json) × Text) :=
  match steps with
  | 0 => none
  | steps + 1 =>
    match skipSpace text with
    | '"' :: rest => do
      let (key, rest) ← readText? rest
      match skipSpace rest with
      | ':' :: rest =>
        let (value, rest) ← readValue? depth steps rest
        match skipSpace rest with
        | '}' :: rest => return ([(key, value)], rest)
        | ',' :: rest =>
          let (entries, rest) ← readEntries? depth steps rest
          return ((key, value) :: entries, rest)
        | _ => none
      | _ => none
    | _ => none

end

/-- One more than the greatest number of lists and objects inside one another. -/
def nestingLimit : Nat := 128

/-- Reads a document. -/
def parse? (text : Text) : Option Json := do
  let (value, rest) ← readValue? nestingLimit (2 * text.length + 2) text
  guard (skipSpace rest = [])
  return value

end Signpost.Json
