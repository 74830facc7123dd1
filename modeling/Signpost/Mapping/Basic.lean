import Signpost.Text.Braces

/-!
# Mappings

A mapping is the template a handler declares: `/region/{regionId}/person/{name}` or
`/files/{*path}`. An ordinary variable binds one segment, a catch-all `{*name}` binds any number of
them. A catch-all is stored as `{__composite-name__}` without the slash in front of it, so that an
empty value leaves no slash behind.

## Main definitions

* `Mapping.Variable`: a variable of a mapping.
* `Mapping.chunks`: a text cut into literal stretches and tokens in braces.
* `Mapping.parse`: reading a mapping.
* `Mapping.expand`: a mapping with values in the place of its tokens.
-/

namespace Signpost

/-- A variable of a mapping. -/
structure Mapping.Variable where
  name : Text
  /-- Whether the variable binds any number of segments. -/
  catchAll : Bool := false
  deriving DecidableEq, Repr

/-- What a variable is replaced by. -/
inductive Substitution where
  /-- The variable stays where it is. -/
  | keep
  /-- Text that is encoded already. -/
  | text (text : Text)
  deriving DecidableEq, Repr

namespace Mapping.Variable

/-- What stands in front of the name of a stored catch-all. -/
def catchAllLead : Text := "__composite-".toList

/-- What stands behind the name of a stored catch-all. -/
def catchAllTail : Text := "__".toList

/-- The key a value for the variable is looked up by. -/
def key (v : Mapping.Variable) : Text :=
  if v.catchAll then catchAllLead ++ v.name ++ catchAllTail else v.name

/-- The substitution when no argument supplies a value. -/
def absent (v : Mapping.Variable) : Substitution :=
  if v.catchAll then .text [] else .keep

/-- The token that declares the variable. -/
def display (v : Mapping.Variable) : Text :=
  if v.catchAll then '{' :: '*' :: v.name ++ ['}'] else '{' :: v.name ++ ['}']

end Mapping.Variable

/-- A parsed mapping: the text with its catch-alls in stored form, and the variables in the order of
declaration. -/
structure Mapping where
  text : Text
  vars : List Mapping.Variable
  deriving DecidableEq, Repr

namespace Mapping

/-- A stretch of a mapping. -/
inductive Chunk where
  | literal (text : Text)
  /-- What stands between the braces of a token. -/
  | token (content : Text)
  deriving DecidableEq, Repr

/-- The text of a stretch. -/
def Chunk.render : Chunk → Text
  | literal text => text
  | token content => '{' :: content ++ ['}']

/-- Cuts a text into tokens, which are the non-empty expressions outside all braces, and literals of
one or more characters. -/
def chunks (text : Text) : List Chunk :=
  match text with
  | [] => []
  | c :: rest =>
    if c = '{' then
      match h : Text.closeBrace? rest with
      | some (content, after) =>
        have : after.length < rest.length := Text.length_lt_of_closeBrace? h
        (if content = [] then .literal ['{', '}'] else .token content) :: chunks after
      | none => [.literal (c :: rest)]
    else .literal [c] :: chunks rest
termination_by text.length

/-- The contents of the tokens of a text. -/
def tokens (text : Text) : List Text :=
  (chunks text).filterMap fun
    | .literal _ => none
    | .token content => some content

/-- The name in a token: without the mark of a catch-all and without a constraint. -/
def tokenName (content : Text) : Text :=
  Text.trim (((Text.stripLead? ['*'] content).getD content).takeWhile (· ≠ ':'))

/-- The name inside the stored form of a catch-all. -/
def catchAllName? (name : Text) : Option Text := do
  let rest ← Text.stripLead? Mapping.Variable.catchAllLead name
  Text.stripTail? Mapping.Variable.catchAllTail rest

/-- The variable that a token declares. -/
def tokenVariable (content : Text) : Mapping.Variable :=
  let name := tokenName content
  if content.head? = some '*' then ⟨name, true⟩
  else
    match catchAllName? name with
    | some inner => ⟨inner, true⟩
    | none => ⟨name, false⟩

/-- The variables of a list without those whose name occurs earlier. -/
def firstOfEachName (vars : List Mapping.Variable) : List Mapping.Variable :=
  vars.foldl (fun kept v => if kept.any (·.name = v.name) then kept else kept ++ [v]) []

/-- The text with the catch-all `v` in stored form, the slash in front of it included if any of its
tokens has one. -/
def storeCatchAll (text : Text) (v : Mapping.Variable) : Text :=
  let stored := '{' :: v.key ++ ['}']
  let withSlash := '/' :: v.display
  if Text.hasInfix withSlash text then Text.replaceAll withSlash stored text
  else Text.replaceAll v.display stored text

/-- Reads a mapping. -/
def parse (raw : Text) : Mapping :=
  let vars := firstOfEachName ((tokens raw).map tokenVariable)
  ⟨(vars.filter (·.catchAll)).foldl storeCatchAll raw, vars⟩

/-- The variable of a given name. -/
def find? (mapping : Mapping) (name : Text) : Option Mapping.Variable :=
  mapping.vars.find? (·.name = name)

/-- The variable that a token of the stored text stands for. -/
def variableOfToken? (mapping : Mapping) (name : Text) : Option Mapping.Variable :=
  mapping.vars.find? fun v => v.key = name || v.name = name

/-- What a stretch of the stored text is replaced by. An ordinary variable without a value is left
under its bare name. -/
def substitute (mapping : Mapping) (value? : Text → Option Substitution) : Chunk → Text
  | .literal text => text
  | .token content =>
    let name := tokenName content
    let v? := mapping.variableOfToken? name
    match value? ((v?.map (·.key)).getD name) with
    | some (.text text) => text
    | _ =>
      match v? with
      | some v => if v.catchAll then (Chunk.token content).render else '{' :: v.name ++ ['}']
      | none => (Chunk.token content).render

/-- The mapping with values, looked up by `Mapping.Variable.key`, in the place of its tokens. -/
def expand (mapping : Mapping) (value? : Text → Option Substitution) : Text :=
  (chunks mapping.text).flatMap (mapping.substitute value?)

end Mapping

end Signpost
