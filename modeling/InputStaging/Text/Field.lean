import InputStaging.Number.Binary64
import InputStaging.Text.CodePoint

/-!
# Fields

How a converted value is laid out: filled up to a width, a whole number in some base, a
floating-point number with fixed places, with an exponent, or with whichever of the two is
fit.
-/

namespace InputStaging.Text

/-- How a conversion fills its field. -/
structure Field where
  left : Bool := false
  zeros : Bool := false
  plus : Bool := false
  blank : Bool := false
  marked : Bool := false
  width : Nat := 0
  places : Option Nat := none
  deriving DecidableEq

/-- Fill up to the width, on the left unless the field says otherwise. -/
def pad (f : Field) (cs : List Char) : List Char :=
  let fill := List.replicate (f.width - (codePoints cs).length) ' '
  if f.left then cs ++ fill else fill ++ cs

/-- A number from its sign, its mark, and its digits. Zeros go between them. -/
def padNumber (f : Field) (negative : Bool) (mark digits : List Char) : List Char :=
  let sign := if negative then ['-'] else if f.plus then ['+'] else if f.blank then [' '] else []
  let front := sign ++ mark
  let zeros := f.width - front.length - digits.length
  if f.zeros && !f.left then front ++ List.replicate zeros '0' ++ digits
  else pad f (front ++ digits)

/-- A whole number in some base, in as many digits as there are places at least. -/
def whole (f : Field) (kind : Char) (n : Int) : List Char :=
  let digits := match kind with
    | 'x' => Nat.toDigits 16 n.natAbs
    | 'X' => (Nat.toDigits 16 n.natAbs).map Char.toUpper
    | 'o' => Nat.toDigits 8 n.natAbs
    | _ => Nat.toDigits 10 n.natAbs
  let mark := if !f.marked then [] else match kind with
    | 'x' | 'X' | 'o' => ['0', kind]
    | _ => []
  padNumber f (n < 0) mark (List.replicate (f.places.getD 0 - digits.length) '0' ++ digits)

/-- Digits with so many after the point. Without any the point is left out, unless the
field is marked. -/
def pointed (f : Field) (digits : List Char) (places : Nat) : List Char :=
  let front := digits.take (digits.length - places)
  let point := if places = 0 && !f.marked then [] else ['.']
  front ++ point ++ digits.drop (digits.length - places)

/-- Fixed places, halves to even. -/
def fixed (f : Field) (units places : Nat) : List Char :=
  let digits := Nat.toDigits 10 (Binary64.roundDiv (units * Binary64.tens places) Binary64.one)
  pointed f (List.replicate (places + 1 - digits.length) '0' ++ digits) places

/-- One digit, so many places, and an exponent. -/
def scientific (f : Field) (units places : Nat) : List Char :=
  let (digits, p) := Binary64.nearest units (places + 1)
  pointed f digits places ++ Binary64.exponentText (p - 1)

/-- Without the zeros that end a fraction, and without a point that ends it then. -/
def trimmed (cs : List Char) : List Char :=
  let fraction := cs.dropWhile (· ≠ '.')
  let kept := (fraction.reverse.dropWhile (· = '0')).reverse
  cs.takeWhile (· ≠ '.') ++ (if kept = ['.'] then [] else kept)

/-- So many significant digits, with an exponent if the point falls far from them. -/
def general (f : Field) (units digits : Nat) : List Char :=
  let (_, p) := Binary64.nearest units digits
  let trim := if f.marked then id else trimmed
  if -3 ≤ p ∧ p ≤ digits then trim (fixed f units (digits - p).toNat)
  else
    trim ((scientific f units (digits - 1)).takeWhile (· ≠ 'e')) ++ Binary64.exponentText (p - 1)

/-- A number that need not be whole. -/
def real (f : Field) (kind : Char) (x : Binary64) : List Char :=
  let places := f.places.getD 6
  let (negative, cs) : Bool × List Char := match x with
    | .nan => (false, "nan".toList)
    | .infinite s => (s, "inf".toList)
    | .finite s units => (s, match kind.toLower with
      | 'e' => scientific f units places
      | 'g' => general f units (max 1 places)
      | _ => fixed f units places)
  padNumber f negative [] (if kind.isUpper then cs.map Char.toUpper else cs)

end InputStaging.Text
