import Signpost.Config.Environment

/-!
# Environment files

An environment file has one assignment a line, `NAME=value`, with comments, quotes and
substitutions. A quoted value may go on over several lines. A substitution `$NAME` takes the value
of the environment, else the one assigned earlier in the file, else nothing.

## Main definitions

* `EnvFile.logicalLines`: the logical lines of a file.
* `EnvFile.readValue?`: the value of an assignment.
* `EnvFile.readLine?`: the assignment on a line.
* `EnvFile.entries?`, `EnvFile.define`: all assignments of a file, and their effect on the
  environment.
-/

namespace Signpost.EnvFile

/-- Where the search for the end of a logical line stands. -/
inductive LineState where
  | complete
  | escape
  | singleQuoted
  | singleEscaped
  | doubleQuoted
  | doubleEscaped
  | comment
  | whiteSpace
  deriving DecidableEq, Repr

/-- The state that a character outside quotes leads to. -/
def plainState (c : Char) : LineState :=
  if c = '\\' then .escape
  else if c = '"' then .doubleQuoted
  else if c = '\'' then .singleQuoted
  else .complete

/-- The state after one more character. A comment starts at a number sign behind white space. -/
def LineState.step (state : LineState) (c : Char) : LineState :=
  match state with
  | whiteSpace => if c = '#' then comment else plainState c
  | escape => complete
  | complete =>
    if Character.isBlank c ∧ c ≠ '\n' ∧ c ≠ '\r' then whiteSpace else plainState c
  | doubleQuoted => if c = '\\' then doubleEscaped else if c = '"' then complete else doubleQuoted
  | doubleEscaped => doubleQuoted
  | singleQuoted => if c = '\\' then singleEscaped else if c = '\'' then complete else singleQuoted
  | singleEscaped => singleQuoted
  | comment => comment

/-- The state at the end of a physical line and the part of the line in front of a comment. -/
def scanLine (state : LineState) : Text → LineState × Text
  | [] => (state, [])
  | c :: rest =>
    match state.step c with
    | .comment => (.comment, [])
    | next =>
      let (final, kept) := scanLine next rest
      (final, c :: kept)

/-- The physical lines of a text, each with the line feed that ends it. -/
def physicalLines : Text → List Text
  | [] => []
  | c :: rest =>
    if c = '\n' then [c] :: physicalLines rest
    else
      match physicalLines rest with
      | [] => [[c]]
      | line :: lines => (c :: line) :: lines

/-- A line without the line feed that ends it and a carriage return in front of that. -/
def dropLineEnd (line : Text) : Text :=
  match Text.stripTail? ['\r', '\n'] line with
  | some line => line
  | none => (Text.stripTail? ['\n'] line).getD line

/-- The logical lines made of `lines`, behind the open line `before`. The last one is none if the
file ends inside quotes. -/
def logicalLines (before : Text) (state : LineState) : List Text → List (Option Text)
  | [] => if state = .complete then [] else [none]
  | line :: lines =>
    if (Text.trimStart (before ++ line)).head? = some '#' then
      some [] :: logicalLines [] .complete lines
    else
      let (next, kept) := scanLine state line
      match next with
      | .complete => some (dropLineEnd (before ++ line)) :: logicalLines [] .complete lines
      | .comment => some (before ++ kept) :: logicalLines [] .complete lines
      | next => logicalLines (before ++ line) next lines

/-- Values that a substitution can fall back on: those assigned so far. -/
abbrev Assigned := List (Text × Text)

/-- What a substitution stands for. -/
def substituted (environment : Environment) (assigned : Assigned) (name : Text) : Text :=
  match environment.get? name with
  | some value => value
  | none => (assigned.lookup name).getD []

/-- Where the reader of a value stands. -/
inductive ValueMode where
  /-- Outside quotes. -/
  | plain
  /-- Inside single quotes. -/
  | single
  /-- Inside double quotes. -/
  | double
  /-- Behind white space; only a comment may follow. -/
  | ended
  deriving DecidableEq, Repr

/-- How far the reader of a value is into a substitution. -/
inductive SubstitutionMode where
  | none
  /-- Behind a dollar sign. -/
  | block
  /-- Behind a dollar sign and a brace. -/
  | braced
  deriving DecidableEq, Repr

/-- What the reader of a value has read. -/
structure ValueReader where
  mode : ValueMode := .plain
  /-- Whether the last character was a backslash. -/
  escaped : Bool := false
  substitution : SubstitutionMode := .none
  /-- The name of an open substitution. -/
  name : Text := []
  output : Text := []
  deriving DecidableEq, Repr

/-- The reader with an open substitution replaced by its value. -/
def ValueReader.apply (value : Text → Text) (reader : ValueReader) : ValueReader :=
  { reader with name := [], output := reader.output ++ value reader.name }

/-- The reader with a further character of the value. -/
def ValueReader.push (reader : ValueReader) (c : Char) : ValueReader :=
  { reader with output := reader.output ++ [c] }

/-- Reads a character behind a backslash. -/
def ValueReader.stepEscaped (reader : ValueReader) (c : Char) : Option ValueReader :=
  let reader := { reader with escaped := false }
  if c = '\\' ∨ c = '\'' ∨ c = '"' ∨ c = '$' ∨ c = ' ' then some (reader.push c)
  else if c = 'n' then some (reader.push '\n')
  else none

/-- Reads a character of an open substitution. A character that ends the name behind a dollar sign
belongs to the value. -/
def ValueReader.stepSubstitution (value : Text → Text) (reader : ValueReader) (c : Char) :
    ValueReader :=
  if Character.isAlphanumeric c then { reader with name := reader.name ++ [c] }
  else if reader.substitution = .braced then
    if c = '}' then { reader.apply value with substitution := .none }
    else { reader with name := reader.name ++ [c] }
  else if c = '{' ∧ reader.name = [] then { reader with substitution := .braced }
  else if c = '$' then { reader.apply value with substitution := .block }
  else { (reader.apply value).push c with substitution := .none }

/-- Reads one character of a value. -/
def ValueReader.step (value : Text → Text) (reader : ValueReader) (c : Char) :
    Option ValueReader :=
  if reader.escaped then reader.stepEscaped c
  else if reader.mode = .single then
    some (if c = '\'' then { reader with mode := .plain } else reader.push c)
  else if reader.substitution ≠ .none then some (reader.stepSubstitution value c)
  else if c = '$' then some { reader with substitution := .block }
  else if reader.mode = .double then
    some (if c = '"' then { reader with mode := .plain }
      else if c = '\\' then { reader with escaped := true }
      else reader.push c)
  else if c = '\'' then some { reader with mode := .single }
  else if c = '"' then some { reader with mode := .double }
  else if c = '\\' then some { reader with escaped := true }
  else if c = ' ' ∨ c = '\t' then some { reader with mode := .ended }
  else some (reader.push c)

/-- Reads the rest of a value. Behind white space only a comment may follow. -/
def readFrom? (value : Text → Text) (reader : ValueReader) : Text → Option ValueReader
  | [] => some reader
  | c :: rest =>
    if reader.mode = .ended then
      if c = ' ' ∨ c = '\t' then readFrom? value reader rest
      else if c = '#' then some reader
      else none
    else
      match reader.step value c with
      | some next => readFrom? value next rest
      | none => none

/-- The value of an assignment, unless a quote or a brace is left open or something follows it. -/
def readValue? (value : Text → Text) (text : Text) : Option Text := do
  let reader ← readFrom? value {} text
  guard (reader.substitution ≠ .braced ∧ reader.mode ≠ .single ∧ reader.mode ≠ .double)
  return (reader.apply value).output

/-- A name: letters, digits, underscores and dots of ASCII, no digit or dot in front. -/
def readName? (text : Text) : Option (Text × Text) :=
  let belongs (c : Char) : Bool := Character.isAsciiAlphanumeric c || c = '_' || c = '.'
  match text with
  | [] => none
  | c :: _ =>
    if Character.isAsciiLetter c ∨ c = '_' then
      some (text.takeWhile belongs, text.dropWhile belongs)
    else none

/-- What follows an equals sign with white space around it. -/
def readEquals? (text : Text) : Option Text :=
  match Text.trimStart text with
  | '=' :: rest => some (Text.trimStart rest)
  | _ => none

/-- The name of an assignment and the text of its value. The word `export` in front of a name is
passed over. -/
def readAssignment? (text : Text) : Option (Text × Text) := do
  let (name, rest) ← readName? text
  match readEquals? rest with
  | some value => return (name, value)
  | none =>
    guard (name = "export".toList)
    let (name, rest) ← readName? (Text.trimStart rest)
    let value ← readEquals? rest
    return (name, value)

/-- Whether a text is empty or a comment. -/
def isBare (text : Text) : Bool :=
  text = [] || text.head? = some '#'

/-- The assignment on a logical line, none if it is malformed; the inner option is none on a line
without an assignment. -/
def readLine? (environment : Environment) (assigned : Assigned) (line : Text) :
    Option (Option (Text × Text)) := do
  let text := Text.trim line
  if isBare text then return none
  let (name, written) ← readAssignment? text
  let value ←
    if isBare written then some [] else readValue? (substituted environment assigned) written
  return some (name, value)

/-- The assignments on logical lines, up to a malformed one, and whether there was none. After each
assignment `define` gives the environment for the next. -/
def readLines (define : Environment → Text → Text → Environment) (environment : Environment)
    (assigned : Assigned) : List (Option Text) → List (Text × Text) × Environment × Bool
  | [] => ([], environment, true)
  | none :: _ => ([], environment, false)
  | some line :: lines =>
    match readLine? environment assigned line with
    | none => ([], environment, false)
    | some none => readLines define environment assigned lines
    | some (some (name, value)) =>
      let (entries, final, sound) :=
        readLines define (define environment name value) ((name, value) :: assigned) lines
      ((name, value) :: entries, final, sound)

/-- The assignments of a file that is read for its own sake. -/
def entries? (environment : Environment) (content : Text) : Option (List (Text × Text)) :=
  let (entries, _, sound) :=
    readLines (fun environment _ _ => environment) environment []
      (logicalLines [] .complete (physicalLines content))
  if sound then some entries else none

/-- The environment with the assignments of a file, which replace nothing, and whether all of the
file was sound. The assignments in front of a malformed line are made. A byte order mark at the
start is passed over. -/
def define (environment : Environment) (content : Text) : Environment × Bool :=
  let content := (Text.stripLead? [Char.ofNat 0xfeff] content).getD content
  let (_, environment, sound) :=
    readLines Environment.defineNew environment []
      (logicalLines [] .complete (physicalLines content))
  (environment, sound)

end Signpost.EnvFile
