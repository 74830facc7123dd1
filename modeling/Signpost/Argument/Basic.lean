import Signpost.Text.Quoted

/-!
# Recorded arguments

The arguments of a recorded call. A scalar is kept as its type and the value itself, together with
the text the value displayed as. Two scalars count as equal if they are of one type and display
alike, whatever else their values are made of. A body never ends up in a URI, so that only its type
is kept.

## Main definitions

* `Value`, `Scalar`, `Argument`: a value, a recorded value and a recorded argument.
* `Argument.visible`, `Argument.agrees`: an argument as far as arguments are compared, and whether
  two arguments count as equal.
* `Argument.ofUnordered`, `Argument.ofNumbered`: an argument from entries that come in no particular
  order, and from entries under numbers.
* `unqualified`: the name of a type without its path.
-/

namespace Signpost

/-- The text up to its first pair of colons. -/
private def untilPath : Text → Text
  | [] => []
  | ':' :: ':' :: _ => []
  | c :: rest => c :: untilPath rest

/-- The name of a type without the path in front of it. The arguments of the type stay. -/
def unqualified (full : Text) : Text :=
  (untilPath (full.takeWhile (· ≠ '<')).reverse).reverse ++ full.dropWhile (· ≠ '<')

/-- A value. -/
structure Value where
  /-- The text the value displays as. -/
  display : Text
  /-- What else the value is made of, by which values that display alike are told apart. -/
  hidden : Text := []
  deriving DecidableEq, Repr

/-- A value that displays all that it is made of. -/
instance : Coe Text Value := ⟨fun display => { display }⟩

/-- A recorded value. -/
structure Scalar where
  /-- The name of the type of the value. -/
  type : Text
  value : Value
  deriving DecidableEq, Repr

namespace Scalar

/-- The text the value displayed as when it was recorded. -/
def display (scalar : Scalar) : Text :=
  scalar.value.display

/-- A recorded value as far as recorded values are compared: by their types and displays. -/
def visible (scalar : Scalar) : Scalar :=
  ⟨scalar.type, scalar.display⟩

theorem visible_eq_visible_iff {a b : Scalar} :
    a.visible = b.visible ↔ a.type = b.type ∧ a.display = b.display := by
  simp [visible]

/-- A recorded value in diagnostics. -/
def diagnostic (scalar : Scalar) : Text :=
  Diagnostic.record "Scalar".toList
    [("type".toList, Diagnostic.quoted scalar.type),
      ("value".toList, Diagnostic.quoted scalar.display)]

end Scalar

/-- A recorded argument. -/
inductive Argument where
  /-- No value was given. -/
  | absent
  | scalar (value : Scalar)
  | collection (items : List Scalar)
  /-- Entries of a map in the order in which they are bound. -/
  | keyed (entries : List (Text × Argument))
  /-- A request body of the given type. -/
  | body (type : Text)
  deriving Repr, Inhabited

namespace Argument

mutual

private def decEq (a b : Argument) : Decidable (a = b) :=
  match a with
  | absent =>
    match b with
    | absent => isTrue rfl
    | scalar _ | collection _ | keyed _ | body _ => isFalse nofun
  | scalar v =>
    match b with
    | scalar w => decidable_of_iff (v = w) (by simp)
    | absent | collection _ | keyed _ | body _ => isFalse nofun
  | collection v =>
    match b with
    | collection w => decidable_of_iff (v = w) (by simp)
    | absent | scalar _ | keyed _ | body _ => isFalse nofun
  | keyed v =>
    match b with
    | keyed w =>
      match decEqEntries v w with
      | isTrue h => isTrue (congrArg keyed h)
      | isFalse h => isFalse fun h' => h (by injection h')
    | absent | scalar _ | collection _ | body _ => isFalse nofun
  | body v =>
    match b with
    | body w => decidable_of_iff (v = w) (by simp)
    | absent | scalar _ | collection _ | keyed _ => isFalse nofun

private def decEqEntries (a b : List (Text × Argument)) : Decidable (a = b) :=
  match a with
  | [] =>
    match b with
    | [] => isTrue rfl
    | _ :: _ => isFalse nofun
  | (k, v) :: rest =>
    match b with
    | [] => isFalse nofun
    | (k', v') :: rest' =>
      match decEq v v', decEqEntries rest rest' with
      | isTrue hv, isTrue hr => decidable_of_iff (k = k') (by simp [hv, hr])
      | isFalse hv, _ => isFalse (by simp [hv])
      | _, isFalse hr => isFalse (by simp [hr])

end

instance : DecidableEq Argument := decEq

/-- Whether no value was given. -/
def isAbsent : Argument → Bool
  | absent => true
  | _ => false

/-- The value of a scalar. -/
def scalar? : Argument → Option Scalar
  | scalar value => some value
  | _ => none

mutual

/-- An argument as far as arguments are compared. -/
def visible : Argument → Argument
  | absent => absent
  | scalar value => scalar value.visible
  | collection items => collection (items.map Scalar.visible)
  | keyed entries => keyed (visibleEntries entries)
  | body type => body type

/-- The entries of a map as far as they are compared. -/
def visibleEntries : List (Text × Argument) → List (Text × Argument)
  | [] => []
  | (key, value) :: rest => (key, visible value) :: visibleEntries rest

end

/-- Whether two arguments count as equal. -/
def agrees (a b : Argument) : Bool :=
  a.visible = b.visible

/-- Puts an entry in front of the first entry with a greater key. -/
def insertByKey (entry : Text × Argument) : List (Text × Argument) → List (Text × Argument)
  | [] => [entry]
  | other :: rest =>
    if entry.1 < other.1 then entry :: other :: rest else other :: insertByKey entry rest

/-- An argument from entries with distinct keys in no particular order: they are bound in the order
of their keys. -/
def ofUnordered (entries : List (Text × Argument)) : Argument :=
  .keyed (entries.foldl (fun sorted entry => insertByKey entry sorted) [])

/-- Puts an entry in front of the first entry with a greater number, or in the place of the one with
the same number. -/
def insertByNumber (entry : Int × Argument) : List (Int × Argument) → List (Int × Argument)
  | [] => [entry]
  | other :: rest =>
    if entry.1 < other.1 then entry :: other :: rest
    else if entry.1 = other.1 then entry :: rest
    else other :: insertByNumber entry rest

/-- An argument from entries under numbers: they are bound in the order of the numbers, and of two
under one number the later one counts. -/
def ofNumbered (entries : List (Int × Argument)) : Argument :=
  .keyed ((entries.foldl (fun sorted entry => insertByNumber entry sorted) []).map fun entry =>
    (Text.ofInt entry.1, entry.2))

mutual

/-- An argument in diagnostics. -/
def diagnostic : Argument → Text
  | absent => "Absent".toList
  | scalar value => Diagnostic.wrapped "Scalar".toList value.diagnostic
  | collection items =>
    Diagnostic.wrapped "Collection".toList (Diagnostic.list (items.map (·.diagnostic)))
  | keyed entries => Diagnostic.wrapped "Map".toList (Diagnostic.list (diagnosticEntries entries))
  | body type =>
    Diagnostic.record "Opaque".toList [("type_name".toList, Diagnostic.quoted type)]

/-- The entries of a map in diagnostics. -/
def diagnosticEntries : List (Text × Argument) → List Text
  | [] => []
  | (key, value) :: rest =>
    ('(' :: Diagnostic.quoted key ++ ", ".toList ++ diagnostic value ++ [')']) ::
      diagnosticEntries rest

end

end Argument

end Signpost
