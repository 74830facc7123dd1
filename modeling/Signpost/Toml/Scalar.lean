import Signpost.Json.Value

/-!
# Scalars of TOML

Numbers, truth values, dates and times. An integer fits into sixty-four bits with sign; a
floating-point number is the nearest one and has to be finite unless it is written as infinite. A
date or time keeps its text in normal form under a key of its own, because it has no form in JSON;
so do infinities and not a number, which become null.

## Main definitions

* `Toml.DateTime`, `Toml.readDateTime?`: dates and times.
* `Toml.readScalar?`: the value of an unquoted text.
-/

namespace Signpost.Toml

-- Powers are those of numbers, whatever other powers a module knows of.
attribute [local instance (high)] instPowNat

/-- Digits with single underscores between them, without the underscores. -/
def digits? (isDigit : Char → Bool) (text : Text) : Option Text :=
  let runs := Text.splitOn '_' text
  if runs.all fun run => run ≠ [] && run.all isDigit then some runs.flatten else none

/-- The text behind an optional sign, and whether the sign is a minus. -/
def splitSign (text : Text) : Bool × Text :=
  match text with
  | '-' :: rest => (true, rest)
  | '+' :: rest => (false, rest)
  | rest => (false, rest)

/-- The natural number that digits in the given base denote. -/
def ofDigits? (base : Nat) (digits : Text) : Option Nat :=
  digits.foldlM (fun n c => do
    let value ← Character.hexValue? c
    guard (value < base)
    return base * n + value) 0

/-- The digits of a decimal whole number: none but a lone zero starts with zero. -/
def wholeDigits? (text : Text) : Option Text := do
  let digits ← digits? Character.isDigit text
  guard (digits.head? ≠ some '0' ∨ digits.length = 1)
  return digits

/-- Reads an integer. -/
def readInteger? (text : Text) : Option Int := do
  let inBase (base : Nat) (written : Text) : Option Int := do
    let digits ← digits? (fun c => (Character.hexValue? c).isSome) written
    let n ← ofDigits? base digits
    return n
  let n ←
    match text with
    | '0' :: 'x' :: written => inBase 16 written
    | '0' :: 'o' :: written => inBase 8 written
    | '0' :: 'b' :: written => inBase 2 written
    | text =>
      let (negative, written) := splitSign text
      (do
        let n ← Text.toNat? (← wholeDigits? written)
        return if negative then -(n : Int) else n : Option Int)
  guard (-2 ^ (63 : Nat) ≤ n ∧ n < 2 ^ (63 : Nat))
  return n

/-- Reads a floating-point number written in digits. -/
def readDecimal? (negative : Bool) (text : Text) : Option Binary := do
  let isMark (c : Char) : Bool := c = 'e' || c = 'E'
  let significand := text.takeWhile (!isMark ·)
  let exponent ←
    match text.dropWhile (!isMark ·) with
    | [] => some none
    | _ :: written =>
      let (down, written) := splitSign written
      (digits? Character.isDigit written).map fun digits => some (down, digits)
  let point := Text.splitOnce? '.' significand
  guard (point.isSome ∨ exponent.isSome)
  let (whole, fraction) := point.getD (significand, ['0'])
  let whole ← wholeDigits? whole
  let fraction ← digits? Character.isDigit fraction
  let shift : Int :=
    match exponent with
    | none => 0
    | some (down, digits) =>
      let n : Int := (Text.toNat? digits).getD 0
      if down then -n else n
  let n ← Text.toNat? (whole ++ fraction)
  let x := Binary.ofDecimal binary64 negative n (shift - fraction.length)
  guard !x.isInfinite
  return x

/-- Reads a floating-point number. -/
def readFloat? (text : Text) : Option Binary :=
  let (negative, body) := splitSign text
  if body = "inf".toList then some (.infinite negative)
  else if body = "nan".toList then some .nan
  else readDecimal? negative body

/-- A time of day. Seconds and nanoseconds that are not written are zero. -/
structure TimeOfDay where
  hour : Nat
  minute : Nat
  second : Nat := 0
  nanosecond : Nat := 0
  deriving DecidableEq, Repr

/-- A date, a time of day and an offset from universal time in minutes, each of which may be
missing. The offset is none inside where it is universal time itself. -/
structure DateTime where
  date : Option (Nat × Nat × Nat) := none
  time : Option TimeOfDay := none
  offset : Option (Option Int) := none
  deriving DecidableEq, Repr

/-- The number of days in a month. -/
def daysIn (year month : Nat) : Nat :=
  if month = 2 then
    if year % 4 = 0 ∧ (year % 100 ≠ 0 ∨ year % 400 = 0) then 29 else 28
  else if month = 4 ∨ month = 6 ∨ month = 9 ∨ month = 11 then 30
  else 31

/-- Reads a number of exactly `count` digits in front of a text. -/
def readFixed? (count : Nat) (text : Text) : Option (Nat × Text) :=
  if (text.take count).length = count then
    (Text.toNat? (text.take count)).map fun n => (n, text.drop count)
  else none

/-- Reads a given character in front of a text. -/
def readChar? (c : Char) (text : Text) : Option Text :=
  Text.stripLead? [c] text

/-- Reads a date in front of a text. -/
def readDate? (text : Text) : Option ((Nat × Nat × Nat) × Text) := do
  let (year, text) ← readFixed? 4 text
  let (month, text) ← readFixed? 2 (← readChar? '-' text)
  let (day, text) ← readFixed? 2 (← readChar? '-' text)
  guard (1 ≤ month ∧ month ≤ 12 ∧ 1 ≤ day ∧ day ≤ daysIn year month)
  return ((year, month, day), text)

/-- Reads the fraction of a second in nanoseconds; further digits are dropped. -/
def readNanoseconds? (text : Text) : Option (Nat × Text) :=
  match text with
  | '.' :: rest =>
    let digits := rest.takeWhile Character.isDigit
    if digits = [] then none
    else
      let kept := digits.take 9
      (Text.toNat? (kept ++ List.replicate (9 - kept.length) '0')).map fun n =>
        (n, rest.dropWhile Character.isDigit)
  | text => some (0, text)

/-- Reads a time of day in front of a text. The seconds may be missing. -/
def readTime? (text : Text) : Option (TimeOfDay × Text) := do
  let (hour, text) ← readFixed? 2 text
  let (minute, text) ← readFixed? 2 (← readChar? ':' text)
  guard (hour ≤ 23 ∧ minute ≤ 59)
  match text with
  | ':' :: rest =>
    let (second, rest) ← readFixed? 2 rest
    guard (second ≤ 60)
    let (nanosecond, rest) ← readNanoseconds? rest
    return ({ hour, minute, second, nanosecond }, rest)
  | text => return ({ hour, minute }, text)

/-- Reads the offset of a time, which is the whole text. -/
def readOffset? (text : Text) : Option (Option (Option Int)) :=
  match text with
  | [] => some none
  | ['Z'] | ['z'] => some (some none)
  | sign :: rest => do
    guard (sign = '+' ∨ sign = '-')
    let (hour, rest) ← readFixed? 2 rest
    let (minute, rest) ← readFixed? 2 (← readChar? ':' rest)
    guard (hour ≤ 23 ∧ minute ≤ 59 ∧ rest = [])
    let minutes : Int := 60 * hour + minute
    return some (some (if sign = '-' then -minutes else minutes))

/-- Reads a date, a time or both. -/
def readDateTime? (text : Text) : Option DateTime :=
  match readDate? text with
  | some (date, []) => some { date }
  | some (date, separator :: rest) => do
    guard (separator = 'T' ∨ separator = 't' ∨ separator = ' ')
    let (time, rest) ← readTime? rest
    let offset ← readOffset? rest
    return { date, time, offset }
  | none => do
    let (time, rest) ← readTime? text
    guard (rest = [])
    return { time }

/-- A number in `width` digits. -/
def fixed (width n : Nat) : Text :=
  Text.padLeft width (Text.ofNat n)

/-- A time of day in normal form: always with seconds, and with a fraction unless it is zero, which
then has no zeros at its end. -/
def TimeOfDay.display (time : TimeOfDay) : Text :=
  fixed 2 time.hour ++ ':' :: fixed 2 time.minute ++ ':' :: fixed 2 time.second ++
    if time.nanosecond = 0 then []
    else '.' :: Text.dropEndWhile (· = '0') (fixed 9 time.nanosecond)

/-- A date or time in normal form. -/
def DateTime.display (value : DateTime) : Text :=
  (match value.date with
    | some (year, month, day) => fixed 4 year ++ '-' :: fixed 2 month ++ '-' :: fixed 2 day
    | none => []) ++
  (if value.date.isSome ∧ value.time.isSome then ['T'] else []) ++
  (match value.time with
    | some time => time.display
    | none => []) ++
  match value.offset with
  | none => []
  | some none => ['Z']
  | some (some minutes) =>
    (if minutes < 0 then '-' else '+') :: fixed 2 (minutes.natAbs / 60) ++
      ':' :: fixed 2 (minutes.natAbs % 60)

/-- The key under which the text of a date or time is kept. -/
def dateTimeKey : Text := "$__toml_private_datetime".toList

/-- A date or time as a value. -/
def DateTime.toJson (value : DateTime) : Json :=
  .object [(dateTimeKey, .text value.display)]

/-- The value of an unquoted text. -/
def readScalar? (text : Text) : Option Json :=
  if text = "true".toList then some (.bool true)
  else if text = "false".toList then some (.bool false)
  else
    match readInteger? text with
    | some n => some (.number (.integer n))
    | none =>
      match readFloat? text with
      | some (.finite negative mantissa exponent) =>
        some (.number (.float (.finite negative mantissa exponent)))
      | some _ => some .null
      | none => (readDateTime? text).map DateTime.toJson

end Signpost.Toml
