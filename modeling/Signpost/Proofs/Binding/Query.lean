import Mathlib.Data.List.Basic
import Signpost.Binding.Query
import Signpost.Proofs.Outcome
import Signpost.Proofs.Percent
import Signpost.Proofs.Uri.Base

/-!
# Reading a query

What a query says is told by cutting it at every `&`, cutting each part at its first `=` and
decoding both sides; a value that is an expression in braces stays as it is. Reading in this way
undoes rendering: names and values are encoded, so that neither separator nor a brace comes from
them, and the names inside expressions consist of characters that separate nothing.

## Main definitions

* `QueryValue`, `readPart?`: a value of a query, and reading one part of it.
* `queryParts`, `readQuery?`, `pathPart`: what follows the first question mark of an href, and what
  comes before.
* `QueryPair.WellFormed`, `QueryPair.reading`: a pair that can be rendered, and what it reads as.

## Main results

* `QueryPair.readPart?_render`: reading a rendered pair.
* `QueryPair.queryParts_resolve_attach`, `QueryPair.readQuery?_resolve_attach`: reading pairs that
  were attached to a path.
-/

namespace Signpost

/-! ### Reading -/

/-- A value as it is read from a query. -/
inductive QueryValue where
  /-- A decoded text. -/
  | text (text : Text)
  /-- An expression that a client fills in, with its braces. -/
  | expression (text : Text)
  deriving DecidableEq, Repr

/-- Reads a part of a query. -/
def readPart? (part : Text) : Option (Text × QueryValue) := do
  let (name, value) ← Text.splitOnce? '=' part
  let name ← Percent.decode? name
  if value.head? = some '{' then return (name, .expression value)
  let text ← Percent.decode? value
  return (name, .text text)

/-- The parts between ampersands of what follows the first question mark; none if there is no
question mark. -/
def queryParts (href : Text) : List Text :=
  match Text.splitOnce? '?' href with
  | some (_, query) => Text.splitOn '&' query
  | none => []

/-- Reads the query of an href. -/
def readQuery? (href : Text) : Option (List (Text × QueryValue)) :=
  (queryParts href).mapM readPart?

/-- What comes before the query of an href. -/
def pathPart (href : Text) : Text :=
  href.takeWhile (· ≠ '?')

/-! ### Characters of names and pairs -/

theorem Percent.eq_percent_or_isUnreserved_of_isNameChar {c : Char} (h : isNameChar c = true) :
    c = '%' ∨ isUnreserved c = true := by
  simp only [isNameChar, Bool.or_eq_true, decide_eq_true_eq] at h
  simp only [isUnreserved, Bool.or_eq_true, decide_eq_true_eq]
  tauto

/-- A character that is reserved in URIs occurs in no name of a variable. -/
theorem notMem_of_isVariableName {c : Char} (hreserved : Percent.IsReserved c) {name : Text}
    (h : isVariableName name = true) : c ∉ name := by
  intro hc
  rw [isVariableName, Bool.and_eq_true, List.all_eq_true] at h
  exact hreserved.not_percent_or_isUnreserved
    (Percent.eq_percent_or_isUnreserved_of_isNameChar (h.2 c hc))

namespace QueryPair

/-- An expression holds the name of a template variable. -/
def WellFormed : QueryPair → Prop
  | placeholder name => isVariableName name = true
  | _ => True

/-- What a pair reads as. -/
def reading : QueryPair → Text × QueryValue
  | value name text => (name, .text text)
  | joined name values => (name, .text (Text.join [','] values))
  | placeholder name => (name, .expression ('{' :: name ++ ['}']))

theorem notMem_render_value {c : Char} (hreserved : Percent.IsReserved c) (hequals : c ≠ '=')
    (name text : Text) : c ∉ (value name text).render := by
  simp [render, Percent.notMem_encode hreserved, hequals]

theorem notMem_render_joined {c : Char} (hreserved : Percent.IsReserved c) (hequals : c ≠ '=')
    (hcomma : c ≠ ',') (name : Text) (values : List Text) : c ∉ (joined name values).render := by
  simp [render, Percent.notMem_encode hreserved, hequals,
    Percent.notMem_join_encode hreserved hcomma]

theorem notMem_render {c : Char} (hreserved : Percent.IsReserved c)
    (hmark : c ∉ "=,{}".toList) {pair : QueryPair} (h : pair.WellFormed) : c ∉ pair.render := by
  obtain ⟨hequals, hcomma, hopen, hclose⟩ : c ≠ '=' ∧ c ≠ ',' ∧ c ≠ '{' ∧ c ≠ '}' := by
    simpa using hmark
  cases pair with
  | value name text => exact notMem_render_value hreserved hequals name text
  | joined name values => exact notMem_render_joined hreserved hequals hcomma name values
  | placeholder name =>
    simp [render, Percent.notMem_encode hreserved, hequals, hopen, hclose,
      notMem_of_isVariableName hreserved h]

/-! ### Reading what was rendered -/

theorem head?_ne_of_notMem {c : Char} {text : Text} (h : c ∉ text) : text.head? ≠ some c :=
  fun hhead => h (List.mem_of_head? hhead)

theorem readPart?_of_encoded {name value text : Text} (hopen : '{' ∉ value)
    (hvalue : Percent.decode? value = some text) :
    readPart? (Percent.encode name ++ '=' :: value) = some (name, .text text) := by
  have hequals : '=' ∉ Percent.encode name := Percent.notMem_encode (by decide) name
  rw [readPart?, Text.splitOnce?_append hequals]
  simp [head?_ne_of_notMem hopen, hvalue]

/-- **Reading undoes rendering.** -/
theorem readPart?_render (pair : QueryPair) : readPart? pair.render = some pair.reading := by
  cases pair with
  | value name text =>
    exact readPart?_of_encoded (Percent.notMem_encode (by decide) text)
      (Percent.decode?_encode text)
  | joined name values =>
    exact readPart?_of_encoded
      (Percent.notMem_join_encode (by decide) (by decide) values)
      (Percent.decode?_join_encode values)
  | placeholder name =>
    have hequals : '=' ∉ Percent.encode name := Percent.notMem_encode (by decide) name
    have hrender : (placeholder name).render =
        Percent.encode name ++ '=' :: ('{' :: name ++ ['}']) := by
      simp [render]
    rw [readPart?, hrender, Text.splitOnce?_append hequals]
    simp [reading]

theorem mapM_readPart?_render (pairs : List QueryPair) :
    (pairs.map render).mapM readPart? = some (pairs.map reading) := by
  induction pairs with
  | nil => rfl
  | cons pair pairs ih => simp [List.mapM_cons, readPart?_render, ih]

/-! ### Pairs behind a path -/

theorem attach_of_notMem {path : Text} (hpath : '?' ∉ path) {pairs : List QueryPair}
    (hpairs : pairs ≠ []) :
    attach path pairs = path ++ '?' :: Text.join ['&'] (pairs.map render) := by
  rw [attach, if_neg hpairs, if_neg hpath]

variable {front path : Text} {pairs : List QueryPair}

theorem pathPart_append (hfront : '?' ∉ front) (path : Text) :
    pathPart (front ++ path) = front ++ pathPart path :=
  List.takeWhile_append_of_pos fun c hc => by simpa using ne_of_mem_of_not_mem hc hfront

/-- Pairs do not change what comes before the query. -/
theorem pathPart_append_attach (hfront : '?' ∉ front) (path : Text) (pairs : List QueryPair) :
    pathPart (front ++ attach path pairs) = front ++ pathPart path := by
  rw [pathPart_append hfront]
  refine congrArg (front ++ ·) ?_
  rw [attach]
  split
  · rfl
  · rw [pathPart, List.takeWhile_append]
    split_ifs with hwhole hquery
    · -- a path that is kept as a whole has no question mark, so that the pairs begin a query
      have hsame : path.takeWhile (· ≠ '?') = path :=
        (List.takeWhile_prefix _).eq_of_length hwhole
      have hmem := List.mem_takeWhile_imp (hsame.symm ▸ hquery)
      exact absurd hmem (by decide)
    · rw [List.takeWhile_cons_of_neg (by decide), List.append_nil]
      exact ((List.takeWhile_prefix _).eq_of_length hwhole).symm
    · rfl

/-- Cutting at ampersands gives the rendered pairs back. -/
theorem queryParts_append_attach (hfront : '?' ∉ front) (hpath : '?' ∉ path)
    (hpairs : ∀ pair ∈ pairs, pair.WellFormed) :
    queryParts (front ++ attach path pairs) = pairs.map render := by
  have hboth : '?' ∉ front ++ path := fun h => (List.mem_append.mp h).elim hfront hpath
  by_cases hnil : pairs = []
  · rw [attach, if_pos hnil, queryParts, Text.splitOnce?_of_notMem hboth, hnil, List.map_nil]
  · have hamp : ∀ part ∈ pairs.map render, '&' ∉ part := by
      intro part hpart
      obtain ⟨pair, hpair, rfl⟩ := List.mem_map.mp hpart
      exact notMem_render (by decide) (by decide) (hpairs pair hpair)
    rw [attach_of_notMem hpath hnil, ← List.append_assoc, queryParts,
      Text.splitOnce?_append hboth]
    exact Text.splitOn_join (by simpa using hnil) hamp

/-! ### Resolved paths with pairs behind them -/

variable {base : BaseUri}

theorem lead_head?_attach (base : BaseUri) (path : Text) (pairs : List QueryPair) :
    base.lead (attach path pairs).head? = base.lead path.head? := by
  by_cases hpairs : pairs = []
  · rw [attach, if_pos hpairs]
  · rw [attach, if_neg hpairs]
    cases path with
    | nil => exact base.lead_query
    | cons c path => rfl

theorem resolve_attach (base : BaseUri) (path : Text) (pairs : List QueryPair) :
    base.resolve (attach path pairs) = base.lead path.head? ++ attach path pairs := by
  rw [BaseUri.resolve_eq_lead_append, lead_head?_attach]

/-- What comes before the query of a resolved path with pairs behind it. -/
theorem pathPart_resolve (hbase : '?' ∉ base.display) (path : Text) (pairs : List QueryPair) :
    pathPart (base.resolve (attach path pairs)) = base.resolve (pathPart path) := by
  rw [resolve_attach, pathPart_append_attach (BaseUri.notMem_lead (by decide) hbase _),
    BaseUri.resolve_eq_lead_append]
  congr 1
  cases path with
  | nil => rfl
  | cons c path =>
    by_cases hc : c = '?'
    · rw [pathPart, List.takeWhile_cons_of_neg (by simpa using hc), hc]
      exact base.lead_query
    · rw [pathPart, List.takeWhile_cons_of_pos (by simpa using hc)]
      rfl

theorem pathPart_resolve_attach (hbase : '?' ∉ base.display) (hpath : '?' ∉ path)
    (pairs : List QueryPair) :
    pathPart (base.resolve (attach path pairs)) = base.resolve path := by
  rw [pathPart_resolve hbase, pathPart, Text.takeWhile_ne_of_notMem hpath]

theorem queryParts_resolve_attach (hbase : '?' ∉ base.display) (hpath : '?' ∉ path)
    (hpairs : ∀ pair ∈ pairs, pair.WellFormed) :
    queryParts (base.resolve (attach path pairs)) = pairs.map render := by
  rw [resolve_attach]
  exact queryParts_append_attach (BaseUri.notMem_lead (by decide) hbase _) hpath hpairs

theorem readQuery?_resolve_attach (hbase : '?' ∉ base.display) (hpath : '?' ∉ path)
    (hpairs : ∀ pair ∈ pairs, pair.WellFormed) :
    readQuery? (base.resolve (attach path pairs)) = some (pairs.map reading) := by
  rw [readQuery?, queryParts_resolve_attach hbase hpath hpairs, mapM_readPart?_render]

theorem notMem_resolve_attach_nil (hbase : '?' ∉ base.display) (hpath : '?' ∉ path) :
    '?' ∉ base.resolve (attach path []) := by
  rw [resolve_attach]
  exact fun h => (List.mem_append.mp h).elim (BaseUri.notMem_lead (by decide) hbase _) hpath

end QueryPair

/-! ### What a parameter carries into the query -/

namespace Parameter

/-- The names and values that an entry of a map carries into the query: one for every scalar in it,
under the key of the entry. -/
def carriedByEntry (formatters : Formatters) (key : Text) : Argument → List (Text × QueryValue)
  | .scalar value => [(key, .text (formatters.format value))]
  | .collection items => items.map fun item => (key, .text (formatters.format item))
  | .absent | .keyed _ | .body _ => []

/-- The names and values that an argument of a query parameter carries into the query. A collection
is carried item by item or joined by commas, a missing value by the default or, if there is none, by
an expression; nothing is carried for what may be missing. -/
def carried (formatters : Formatters) (parameter : Parameter) (name : Text) :
    Argument → List (Text × QueryValue)
  | .scalar value => [(name, .text (formatters.format value))]
  | .collection items =>
    if parameter.joined ∧ items ≠ [] then
      [(name, .text (Text.join [','] (items.map formatters.format)))]
    else items.map fun item => (name, .text (formatters.format item))
  | .keyed entries => entries.flatMap fun entry => carriedByEntry formatters entry.1 entry.2
  | .body _ => []
  | .absent =>
    if parameter.isRequired then
      match parameter.default with
      | some default => [(name, .text default)]
      | none => [(name, .expression ('{' :: name ++ ['}']))]
    else []

end Parameter

namespace QueryPair

variable {formatters : Formatters} {parameter : Parameter} {name : Text} {argument : Argument}
  {pairs : List QueryPair}

theorem map_reading_ofEntry (formatters : Formatters) (key : Text) (argument : Argument) :
    (ofEntry formatters key argument).map reading =
      Parameter.carriedByEntry formatters key argument := by
  cases argument with
  | collection items =>
    rw [ofEntry, List.map_map]
    rfl
  | absent => rfl
  | scalar value => rfl
  | keyed entries => rfl
  | body type => rfl

theorem wellFormed_of_mem_ofEntry {key : Text} {pair : QueryPair}
    (h : pair ∈ ofEntry formatters key argument) : pair.WellFormed := by
  cases argument with
  | scalar value =>
    obtain rfl := List.mem_singleton.mp h
    trivial
  | collection items =>
    obtain ⟨item, -, rfl⟩ := List.mem_map.mp h
    trivial
  | absent => exact absurd h List.not_mem_nil
  | keyed entries => exact absurd h List.not_mem_nil
  | body type => exact absurd h List.not_mem_nil

theorem ofAbsent_eq_ok_some_iff :
    ofAbsent parameter name = .ok (some pairs) ↔
      parameter.isRequired = true ∧
        ((∃ default, parameter.default = some default ∧ pairs = [value name default]) ∨
          parameter.default = none ∧ isVariableName name = true ∧ pairs = [placeholder name]) := by
  rw [ofAbsent]
  cases parameter.isRequired <;> cases parameter.default <;> cases isVariableName name <;>
    simp [eq_comm]

theorem ofAbsent_eq_ok_none_iff :
    ofAbsent parameter name = .ok none ↔ parameter.isRequired = false := by
  rw [ofAbsent]
  cases parameter.isRequired <;> cases parameter.default <;> cases isVariableName name <;> simp

/-- Only an optional parameter without an argument is left out. -/
theorem ofArgument_eq_ok_none_iff :
    ofArgument formatters parameter name argument = .ok none ↔
      argument = .absent ∧ parameter.isRequired = false := by
  cases argument with
  | absent => simp [ofArgument, ofAbsent_eq_ok_none_iff]
  | scalar value => simp [ofArgument]
  | collection items => simp [ofArgument]
  | keyed entries => simp [ofArgument]
  | body type => simp [ofArgument]

/-- The pairs of an argument read as what the argument carries. -/
theorem map_reading_ofArgument
    (h : ofArgument formatters parameter name argument = .ok (some pairs)) :
    pairs.map reading = parameter.carried formatters name argument := by
  cases argument with
  | scalar value =>
    obtain rfl : [QueryPair.value name (formatters.format value)] = pairs := by
      simpa [ofArgument] using h
    rfl
  | collection items =>
    obtain rfl : ofCollection formatters parameter.joined name items = pairs := by
      simpa [ofArgument] using h
    rw [ofCollection, Parameter.carried]
    by_cases hitems : items = []
    · simp [hitems]
    · by_cases hjoined : parameter.joined = true
      · simp [hitems, hjoined, reading]
      · simp [hitems, hjoined, reading]
  | keyed entries =>
    obtain rfl : (entries.flatMap fun entry => ofEntry formatters entry.1 entry.2) = pairs := by
      simpa [ofArgument] using h
    simp only [List.map_flatMap, map_reading_ofEntry, Parameter.carried]
  | body type =>
    obtain rfl : [] = pairs := by simpa [ofArgument] using h
    rfl
  | absent =>
    obtain ⟨hrequired, ⟨default, hdefault, rfl⟩ | ⟨hdefault, -, rfl⟩⟩ :=
      ofAbsent_eq_ok_some_iff.mp h
    · simp [Parameter.carried, hrequired, hdefault, reading]
    · simp [Parameter.carried, hrequired, hdefault, reading]

/-- An argument that is left out carries nothing. -/
theorem carried_of_ofArgument_none (h : ofArgument formatters parameter name argument = .ok none) :
    parameter.carried formatters name argument = [] := by
  obtain ⟨rfl, hrequired⟩ := ofArgument_eq_ok_none_iff.mp h
  simp [Parameter.carried, hrequired]

theorem wellFormed_of_ofArgument
    (h : ofArgument formatters parameter name argument = .ok (some pairs)) {pair : QueryPair}
    (hpair : pair ∈ pairs) : pair.WellFormed := by
  cases argument with
  | scalar value =>
    obtain rfl : [QueryPair.value name (formatters.format value)] = pairs := by
      simpa [ofArgument] using h
    obtain rfl := List.mem_singleton.mp hpair
    trivial
  | collection items =>
    obtain rfl : ofCollection formatters parameter.joined name items = pairs := by
      simpa [ofArgument] using h
    rw [ofCollection] at hpair
    split at hpair
    · exact absurd hpair List.not_mem_nil
    · split at hpair
      · obtain rfl := List.mem_singleton.mp hpair
        trivial
      · obtain ⟨item, -, rfl⟩ := List.mem_map.mp hpair
        trivial
  | keyed entries =>
    obtain rfl : (entries.flatMap fun entry => ofEntry formatters entry.1 entry.2) = pairs := by
      simpa [ofArgument] using h
    obtain ⟨entry, -, hentry⟩ := List.mem_flatMap.mp hpair
    exact wellFormed_of_mem_ofEntry hentry
  | body type =>
    obtain rfl : [] = pairs := by simpa [ofArgument] using h
    exact absurd hpair List.not_mem_nil
  | absent =>
    obtain ⟨-, ⟨default, -, rfl⟩ | ⟨-, hname, rfl⟩⟩ := ofAbsent_eq_ok_some_iff.mp h
    · obtain rfl := List.mem_singleton.mp hpair
      trivial
    · obtain rfl := List.mem_singleton.mp hpair
      exact hname

end QueryPair

end Signpost
