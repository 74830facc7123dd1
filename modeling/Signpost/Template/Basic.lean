import Signpost.Error
import Signpost.Percent
import Signpost.Template.Variable

/-!
# URI templates

A template is a text with expressions in braces: `/people/{id}{?page,size}`. It is read into
literals and expressions, printed back unchanged, extended by further variables and expanded with
values. Expanding encodes every value, leaves out optional variables without one, and fails at the
first required variable that has none.

## Main definitions

* `Template`, `Template.Part`: a template and what it is made of.
* `Template.parse`: reading a template.
* `Template.extend`: variables appended behind a template.
* `Template.expand`: the URI a template gives for the values of its variables.
-/

namespace Signpost

/-- Why a text is no template. -/
inductive TemplateError where
  /-- An opening brace is never closed. -/
  | unclosed (source : Text)
  /-- A closing brace follows the last expression. -/
  | unbalanced (source : Text)
  /-- A name of an expression is empty or has a foreign character. -/
  | badName (name source : Text)
  deriving DecidableEq, Repr

/-- The text shown for a template error. -/
def TemplateError.message : TemplateError → Text
  | unclosed source => "unclosed expression in ".toList ++ source
  | unbalanced source => "unbalanced closing brace in ".toList ++ source
  | badName name source => "invalid variable name '".toList ++ name ++ "' in ".toList ++ source

/-- A template error as the failure of a link. -/
def TemplateError.toLinkError (error : TemplateError) : LinkError :=
  .invalidTemplate error.message

/-- A stretch of a template. -/
inductive Template.Part where
  | literal (text : Text)
  | expression (vars : List Template.Variable)
  deriving DecidableEq, Repr

/-- A parsed template, together with the text it prints as. -/
structure Template where
  source : Text
  parts : List Template.Part
  deriving DecidableEq, Repr

namespace Template

/-- The variables of a part. -/
def Part.vars : Part → List Template.Variable
  | literal _ => []
  | expression vars => vars

/-- The text of a part. -/
def Part.render : Part → Text
  | literal text => text
  | expression vars => Template.Variable.render false vars

/-- A literal, unless it is empty. -/
def literalPart (text : Text) : List Part :=
  if text = [] then [] else [.literal text]

/-- Reads one name of an expression; an asterisk at its end marks an exploded variable. -/
def readName (source : Text) (kind : VariableKind) (raw : Text) :
    Except TemplateError Template.Variable :=
  let (name, exploded) :=
    match Text.stripTail? ['*'] raw with
    | some name => (name, true)
    | none => (raw, false)
  if isVariableName name then .ok ⟨name, kind, exploded⟩ else .error (.badName raw source)

/-- The kind that the first character of an expression selects, and the names behind it. -/
def splitOperator : Text → VariableKind × Text
  | [] => (.path, [])
  | c :: rest =>
    if c = '?' then (.query, rest)
    else if c = '&' then (.queryContinued, rest)
    else if c = '/' then (.segment, rest)
    else if c = '#' then (.fragment, rest)
    else (.path, c :: rest)

/-- Reads what stands between the braces of an expression. -/
def readExpression (source content : Text) : Except TemplateError (List Template.Variable) :=
  let (kind, names) := splitOperator content
  (Text.splitOn ',' names).mapM (readName source kind)

/-- Reads the parts of the rest of the template `source`. -/
def readParts (source rest : Text) : Except TemplateError (List Part) :=
  let lead := rest.takeWhile (· ≠ '{')
  match hrest : rest.dropWhile (· ≠ '{') with
  | [] => if '}' ∈ lead then .error (.unbalanced source) else .ok (literalPart lead)
  | _ :: body =>
    match hbody : body.dropWhile (· ≠ '}') with
    | [] => .error (.unclosed source)
    | _ :: after => do
      have : after.length < rest.length := by
        have h₁ := (List.dropWhile_sublist (fun c => decide (c ≠ '{')) (l := rest)).length_le
        have h₂ := (List.dropWhile_sublist (fun c => decide (c ≠ '}')) (l := body)).length_le
        simp only [hrest, hbody, List.length_cons] at h₁ h₂
        omega
      let vars ← readExpression source (body.takeWhile (· ≠ '}'))
      let parts ← readParts source after
      return literalPart lead ++ .expression vars :: parts
termination_by rest.length

/-- Reads a template. -/
def parse (source : Text) : Except TemplateError Template := do
  return ⟨source, ← readParts source source⟩

/-- The template without variables that expands to `uri`, whatever braces it holds. -/
def literal (uri : Text) : Template :=
  ⟨uri, literalPart uri⟩

/-- The variables in the order of their expressions. -/
def vars (template : Template) : List Template.Variable :=
  template.parts.flatMap Part.vars

/-- The names of the variables. -/
def names (template : Template) : List Text :=
  template.vars.map (·.name)

/-- Whether the template has a variable. -/
def isTemplated (template : Template) : Bool :=
  !template.vars.isEmpty

/-- The literal in front of the first expression. -/
def baseUri (template : Template) : Text :=
  match template.parts with
  | .literal text :: _ => text
  | _ => []

/-- Whether a literal part carries a query already. -/
def hasQuery (template : Template) : Bool :=
  template.parts.any fun
    | .literal text => '?' ∈ text
    | .expression _ => false

/-- The template with `additional` variables behind it, except for those whose name it has. -/
def extend (template : Template) (additional : List Template.Variable) : Template :=
  let fresh := Template.Variable.missingFrom template.vars additional
  { source := template.source ++ Template.Variable.render template.hasQuery fresh
    parts := template.parts ++ fresh.map fun v => .expression [v] }

/-- The path that the non-empty segments of a value make, each encoded behind a slash. -/
def segmentPath (value : Text) : Text :=
  (Text.segments value).flatMap fun segment => '/' :: Percent.encode segment

/-- What the value of a variable adds behind `out`. -/
def addition (out : Text) (v : Template.Variable) (value : Text) : Text :=
  match v.kind with
  | .path => Percent.encode value
  | .query | .queryContinued =>
    (if '?' ∈ out then '&' else '?') :: Percent.encode v.name ++ '=' :: Percent.encode value
  | .segment => if v.exploded then segmentPath value else '/' :: Percent.encode value
  | .fragment => '#' :: Percent.encode value

/-- Expands one variable behind `out`. -/
def expandVar (lookup : Text → Option Text) (out : Text) (v : Template.Variable) :
    Except LinkError Text :=
  match lookup v.name with
  | some value => .ok (out ++ addition out v value)
  | none => if v.isRequired then .error (.missingVariable v.name) else .ok out

/-- Expands a part behind `out`. -/
def expandPart (lookup : Text → Option Text) (out : Text) : Part → Except LinkError Text
  | .literal text => .ok (out ++ text)
  | .expression vars => vars.foldlM (expandVar lookup) out

/-- The URI that the template gives for the values of its variables. -/
def expand (template : Template) (lookup : Text → Option Text) : Except LinkError Text :=
  template.parts.foldlM (expandPart lookup) []

end Template

end Signpost
