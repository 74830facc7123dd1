import Signpost.Text.Case

/-!
# URIs

Reading a URI into scheme, authority, path and query. A fragment is dropped. A text that starts
with a slash has neither scheme nor authority; a text without a scheme and without a leading slash
has to be an authority as a whole.

## Main definitions

* `Uri`, `UriError`: a URI, and why a text is none.
* `Uri.parse`: reading a URI.
* `Uri.host`, `Uri.portNumber?`: the parts of the authority.
* `Uri.display`: the URI as text.
-/

namespace Signpost

/-- Why a text is no URI. -/
inductive UriError where
  | empty
  | tooLong
  | invalidChar
  | schemeTooLong
  | invalidAuthority
  | invalidFormat
  deriving DecidableEq, Repr

/-- The text shown for a URI error. -/
def UriError.message : UriError → Text
  | empty => "empty string".toList
  | tooLong => "uri too long".toList
  | invalidChar => "invalid uri character".toList
  | schemeTooLong => "scheme too long".toList
  | invalidAuthority => "invalid authority".toList
  | invalidFormat => "invalid format".toList

/-- A URI without its fragment. -/
structure Uri where
  scheme : Option Text
  authority : Option Text
  path : Text
  query : Option Text
  deriving DecidableEq, Repr

namespace Uri

/-- The greatest length of a URI in UTF-8. -/
def maxLength : Nat := 65534

/-- The greatest length of a scheme. -/
def maxSchemeLength : Nat := 64

/-- A character of a scheme: letters, digits, `+`, `-`, `.` and `~`. -/
def isSchemeChar (c : Char) : Bool :=
  Character.isAsciiAlphanumeric c || "+-.~".toList.contains c

/-- A character of an authority, the percent sign apart. -/
def isAuthorityChar (c : Char) : Bool :=
  Character.isAsciiAlphanumeric c || "!$&'()*+,-.:;=@[]_~".toList.contains c

/-- A character of a path. Beyond ASCII everything is. -/
def isPathChar (c : Char) : Bool :=
  let n := c.toNat
  n = 0x21 || n = 0x22 || (0x24 ≤ n && n ≤ 0x3b) || n = 0x3d || (0x40 ≤ n && n ≤ 0x5f) ||
    (0x61 ≤ n && n ≤ 0x7e) || 0x80 ≤ n

/-- A character of a query. Beyond ASCII everything is. -/
def isQueryChar (c : Char) : Bool :=
  let n := c.toNat
  n = 0x21 || (0x24 ≤ n && n ≤ 0x3b) || n = 0x3d || (0x3f ≤ n && n ≤ 0x7e) || 0x80 ≤ n

/-- Where a reader stands in an authority. -/
structure AuthorityState where
  /-- The colons since the last `@` or `]`. -/
  colons : Nat := 0
  /-- Whether an opening bracket was read. -/
  opened : Bool := false
  /-- Whether a closing bracket was read. -/
  closed : Bool := false
  /-- Whether a percent sign was read since the last `@` or `]`. -/
  percent : Bool := false
  /-- Whether `@` is the last character read. -/
  atSign : Bool := false
  deriving DecidableEq, Repr

/-- Reads one character of an authority. Colons are counted up to the eight of a bracketed address;
a percent sign is allowed in front of `@` and inside brackets only. -/
def AuthorityState.step (state : AuthorityState) (c : Char) : Except UriError AuthorityState :=
  let state := { state with atSign := c = '@' }
  if c = ':' then
    if state.colons ≥ 8 then .error .invalidAuthority
    else .ok { state with colons := state.colons + 1 }
  else if c = '[' then
    if state.percent || state.opened then .error .invalidAuthority
    else .ok { state with opened := true }
  else if c = ']' then
    if !state.opened || state.closed then .error .invalidAuthority
    else .ok { state with closed := true, colons := 0, percent := false }
  else if c = '@' then .ok { state with colons := 0, percent := false }
  else if c = '%' then .ok { state with percent := true }
  else if isAuthorityChar c then .ok state
  else .error .invalidChar

/-- Whether an authority may end here. -/
def AuthorityState.isFinal (state : AuthorityState) : Bool :=
  state.opened = state.closed && state.colons ≤ 1 && !state.atSign && !state.percent

/-- Splits a text behind its authority, which ends at the first `/`, `?` or `#`. -/
def splitAuthority (text : Text) : Except UriError (Text × Text) := do
  if text = [] then
    throw .empty
  let endsHere (c : Char) : Bool := c = '/' || c = '?' || c = '#'
  let authority := text.takeWhile (!endsHere ·)
  let state ← authority.foldlM AuthorityState.step {}
  if !state.isFinal then
    throw .invalidAuthority
  return (authority, text.dropWhile (!endsHere ·))

/-- Reads a path and what follows it; the fragment is dropped. -/
def parsePath (text : Text) : Except UriError (Text × Option Text) := do
  let ends (c : Char) : Bool := c = '?' || c = '#'
  let path := text.takeWhile (!ends ·)
  if !path.all isPathChar then
    throw .invalidChar
  match text.dropWhile (!ends ·) with
  | '?' :: rest =>
    let query := rest.takeWhile (· ≠ '#')
    if query.all isQueryChar then return (path, some query) else throw .invalidChar
  | _ => return (path, none)

/-- Splits a text behind its scheme and `://`, if it has one. The two schemes of the web are
recognised in any case and stored in lower case. -/
def splitScheme? (text : Text) : Except UriError (Option (Text × Text)) :=
  let lowered (n : Nat) := Text.toAsciiLower (text.take n)
  if lowered 7 = "http://".toList then .ok (some ("http".toList, text.drop 7))
  else if lowered 8 = "https://".toList then .ok (some ("https".toList, text.drop 8))
  else if text.length ≤ 3 then .ok none
  else
    let scheme := text.takeWhile isSchemeChar
    match Text.stripLead? "://".toList (text.dropWhile isSchemeChar) with
    | some rest =>
      if scheme.length > maxSchemeLength then .error .schemeTooLong else .ok (some (scheme, rest))
    | none => .ok none

/-- Reads a URI that starts with a scheme or is an authority as a whole. -/
def parseFull (text : Text) : Except UriError Uri := do
  match ← splitScheme? text with
  | none =>
    let (authority, rest) ← splitAuthority text
    if rest = [] then return ⟨none, some authority, [], none⟩ else throw .invalidFormat
  | some (scheme, rest) =>
    let (authority, rest) ← splitAuthority rest
    if authority = [] then
      throw .invalidFormat
    let (path, query) ← parsePath rest
    return ⟨some scheme, some authority, if path = [] then ['/'] else path, query⟩

/-- Reads a URI. -/
def parse (text : Text) : Except UriError Uri := do
  if text.utf8.length > maxLength then
    throw .tooLong
  match text with
  | [] => throw .empty
  | ['*'] => return ⟨none, none, ['*'], none⟩
  | '/' :: _ =>
    let (path, query) ← parsePath text
    return ⟨none, none, path, query⟩
  | [_] =>
    let (authority, rest) ← splitAuthority text
    if rest = [] then return ⟨none, some authority, [], none⟩ else throw .invalidChar
  | _ => parseFull text

/-- What stands in the authority behind the last `@`. -/
private def hostPort (authority : Text) : Text :=
  (authority.reverse.takeWhile (· ≠ '@')).reverse

/-- The host: in brackets, or up to the first colon. -/
def host (uri : Uri) : Option Text :=
  uri.authority.map fun authority =>
    match hostPort authority with
    | '[' :: rest => '[' :: rest.takeWhile (· ≠ ']') ++ [']']
    | text => text.takeWhile (· ≠ ':')

/-- The number behind the last colon of the authority, if one of sixteen bits stands there. -/
def portNumber? (uri : Uri) : Option Nat := do
  let authority ← uri.authority
  guard (':' ∈ authority)
  let digits := (authority.reverse.takeWhile (· ≠ ':')).reverse
  let number ← Text.toNat? ((Text.stripLead? ['+'] digits).getD digits)
  guard (number < 65536)
  return number

/-- The URI as text. -/
def display (uri : Uri) : Text :=
  (match uri.scheme with
    | some scheme => scheme ++ "://".toList
    | none => []) ++
  uri.authority.getD [] ++ uri.path ++
  match uri.query with
  | some query => '?' :: query
  | none => []

end Uri

end Signpost
