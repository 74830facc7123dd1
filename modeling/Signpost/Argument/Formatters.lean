import Signpost.Argument.Basic

/-!
# Formatters

Before a recorded value is encoded into a URI, the formatter registered for its type turns it into
text. It is given the value itself and not only the text that this displays as. A value of a type
without a formatter keeps the text it was recorded with.

## Main definitions

* `Formatters`: the formatter of each type.
* `Formatters.register`, `Formatters.format`: adding a formatter and using it.
* `Formatters.add`: adding a formatter that works on what values display as.
-/

namespace Signpost

/-- The formatters of types, the one registered last first. -/
structure Formatters where
  ofType : List (Text × (Value → Text)) := []

namespace Formatters

/-- The formatters with `format` for the type, in place of an earlier one. -/
def register (formatters : Formatters) (type : Text) (format : Value → Text) : Formatters :=
  ⟨(type, format) :: formatters.ofType.filter (·.1 ≠ type)⟩

/-- The formatters with one for the type that works on the text a value displays as. -/
def add (formatters : Formatters) (type : Text) (format : Text → Text) : Formatters :=
  formatters.register type fun value => format value.display

/-- Whether there is a formatter for the type. -/
def covers (formatters : Formatters) (type : Text) : Bool :=
  formatters.ofType.any (·.1 = type)

/-- The text of a recorded value. -/
def format (formatters : Formatters) (scalar : Scalar) : Text :=
  match formatters.ofType.find? (·.1 = scalar.type) with
  | some (_, format) => format scalar.value
  | none => scalar.display

/-- The formatters in diagnostics. -/
def diagnostic (formatters : Formatters) : Text :=
  Diagnostic.record "ConversionService".toList
    [("formatters".toList,
      Diagnostic.list (formatters.ofType.map fun entry => Diagnostic.quoted entry.1))]

end Formatters

end Signpost
