import Signpost.Text.Basic

/-!
# Percent-encoding

A value enters a URI with every byte of its UTF-8 form written as `%XX`, except for the letters,
digits and marks that a URI never gives a meaning of its own. Encoded text therefore holds no
slash, question mark, number sign or brace.

## Main definitions

* `isUnreserved`: the characters that stand for themselves.
* `encode`: the percent-encoded form of a text.
* `decode?`: the text behind a percent-encoded form.
-/

namespace Signpost.Percent

/-- Letters, digits, `-`, `.`, `_` and `~` of ASCII. -/
def isUnreserved (c : Char) : Bool :=
  Character.isAsciiAlphanumeric c || c = '-' || c = '.' || c = '_' || c = '~'

/-- The upper-case hexadecimal digit of a number below sixteen. -/
def hexDigit (n : Nat) : Char :=
  (Nat.digitChar n).toUpper

/-- The escape of one byte. -/
def escape (byte : UInt8) : Text :=
  ['%', hexDigit (byte.toNat / 16), hexDigit (byte.toNat % 16)]

/-- The encoded form of one character. -/
def encodeChar (c : Char) : Text :=
  if isUnreserved c then [c] else (String.utf8EncodeChar c).flatMap escape

/-- The encoded form of a text. -/
def encode (text : Text) : Text :=
  text.flatMap encodeChar

/-- The bytes that an encoded form stands for. A percent sign has to be followed by two hexadecimal
digits. -/
def bytes? : Text → Option (List UInt8)
  | [] => some []
  | '%' :: high :: low :: rest => do
    let h ← Character.hexValue? high
    let l ← Character.hexValue? low
    let bytes ← bytes? rest
    return UInt8.ofNat (16 * h + l) :: bytes
  | c :: rest => if c = '%' then none else (bytes? rest).map (String.utf8EncodeChar c ++ ·)

/-- The text behind an encoded form, if its bytes are UTF-8. -/
def decode? (encoded : Text) : Option Text := do
  let bytes ← bytes? encoded
  let text ← String.fromUTF8? bytes.toByteArray
  return text.toList

end Signpost.Percent
