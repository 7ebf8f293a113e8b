import InputStaging.Text.Quoted

/-!
# JSON text

String literals in the two alphabets that are written (everything, or ASCII only), and
a value that is laid out either on one line or indented.
-/

namespace InputStaging

namespace Text

/-- A code unit as `\uhhhh`. -/
def unitEscape (n : Nat) : List Char := '\\' :: 'u' :: hexDigits 4 n

/-- The escape of a code point outside ASCII: one unit, or a surrogate pair. Half of a pair
is one unit. -/
def utf16Escape (n : Nat) : List Char :=
  if n < 0x10000 then unitEscape n
  else
    unitEscape (0xD800 + (n - 0x10000) / 0x400) ++ unitEscape (0xDC00 + (n - 0x10000) % 0x400)

/-- Quotes, backslashes and controls are always escaped; from DEL on, only if the
literal has to stay within printable ASCII. -/
def jsonCode (asciiOnly : Bool) (n : Nat) : List Char :=
  if n = '"'.toNat then ['\\', '"']
  else if n = '\\'.toNat then ['\\', '\\']
  else if n = 0x0A then ['\\', 'n']
  else if n = 0x0D then ['\\', 'r']
  else if n = 0x09 then ['\\', 't']
  else if n = 0x08 then ['\\', 'b']
  else if n = 0x0C then ['\\', 'f']
  else if n < 0x20 then unitEscape n
  else if asciiOnly && 0x7F ≤ n then utf16Escape n
  else writing n

def jsonString (asciiOnly : Bool) (s : String) : String :=
  String.ofList ('"' :: (codePoints s.toList).flatMap (jsonCode asciiOnly) ++ ['"'])

end Text

end InputStaging
