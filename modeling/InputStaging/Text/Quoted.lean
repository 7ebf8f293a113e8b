import InputStaging.Text.CodePoint
import InputStaging.Text.Unprintable

/-!
# Quoted text

The form in which a message repeats a text that may hold anything: in quotes, with
what cannot be printed written as an escape.
-/

namespace InputStaging.Text

/-- Lower-case hexadecimal digits of `n`, exactly `width` of them. -/
def hexDigits : Nat → Nat → List Char
  | 0, _ => []
  | width + 1, n => hexDigits width (n / 16) ++ [Nat.digitChar (n % 16)]

/-- A code point as an escape. -/
def escapeCode (n : Nat) : List Char :=
  if n < 0x100 then '\\' :: 'x' :: hexDigits 2 n
  else if n < 0x10000 then '\\' :: 'u' :: hexDigits 4 n
  else '\\' :: 'U' :: hexDigits 8 n

/-- A code point between marks of quotation. -/
def quoteCode (quote : Char) (n : Nat) : List Char :=
  let c := Char.ofNat n
  if isUnprintable n then
    if n = 0x0A then ['\\', 'n']
    else if n = 0x0D then ['\\', 'r']
    else if n = 0x09 then ['\\', 't']
    else escapeCode n
  else if c = quote || c = '\\' then ['\\', c]
  else [c]

/-- Single quotes, unless the text holds single quotes and no double ones. -/
def quoteMark (s : String) : Char :=
  if s.toList.contains '\'' && !s.toList.contains '"' then '"' else '\''

def quoted (s : String) : String :=
  let quote := quoteMark s
  String.ofList (quote :: (codePoints s.toList).flatMap (quoteCode quote) ++ [quote])

/-- Every character that is not ASCII is written as an escape. -/
def asciiOnly (s : String) : String :=
  String.ofList ((codePoints s.toList).flatMap fun n =>
    if n < 0x80 then [Char.ofNat n] else escapeCode n)

/-- A byte in the form in which messages repeat bytes. -/
def quoteByte (quote : Char) (b : UInt8) : List Char :=
  let c := Char.ofNat b.toNat
  if c = quote || c = '\\' then ['\\', c]
  else if c = '\n' then ['\\', 'n']
  else if c = '\r' then ['\\', 'r']
  else if c = '\t' then ['\\', 't']
  else if b < 0x20 || 0x7F ≤ b then '\\' :: 'x' :: hexDigits 2 b.toNat
  else [c]

/-- Bytes in quotes, which are chosen as for text. -/
def quotedBytes (bs : List UInt8) : String :=
  let quote := quoteMark (String.ofList (bs.map fun b => Char.ofNat b.toNat))
  String.ofList ('b' :: quote :: bs.flatMap (quoteByte quote) ++ [quote])

end InputStaging.Text
