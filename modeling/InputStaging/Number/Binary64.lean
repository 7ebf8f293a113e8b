/-!
# Binary floating-point numbers

A finite number is held exactly, as a count of the smallest unit 2⁻¹⁰⁷⁴, so that equal
numbers have one form apart from the sign of zero. Every result is the exact one rounded
to 53 significant bits, halves to even. The text of a number is the shortest decimal
that reads back as it.
-/

namespace InputStaging

inductive Binary64 where
  | nan
  | infinite (negative : Bool)
  | finite (negative : Bool) (units : Nat)
  deriving DecidableEq, Repr

namespace Binary64

/-- How many of the smallest units make up one. -/
def one : Nat := Nat.pow 2 1074

def zero : Binary64 := finite false 0

/-- The nearest quotient, halves to even. -/
def roundDiv (n d : Nat) : Nat :=
  let q := n / d
  let r := n % d
  if 2 * r < d ∨ (2 * r = d ∧ q % 2 = 0) then q else q + 1

/-- The number nearest to `num / den`. -/
def ofRatio (negative : Bool) (num den : Nat) : Binary64 :=
  let scaled := num * one
  let step := Nat.pow 2 ((scaled / den).log2 + 1 - 53)
  let units := roundDiv scaled (den * step) * step
  if Nat.pow 2 1024 * one ≤ units then infinite negative else finite negative units

def ofInt (n : Int) : Binary64 := ofRatio (n < 0) n.natAbs 1

/-- One and so many zeros. -/
def tens (n : Nat) : Nat := Nat.pow 10 n

def decimalDigits (n : Nat) : List Char := Nat.toDigits 10 n

/-- The number nearest to `digits * 10 ^ exponent`. -/
def ofDecimal (negative : Bool) (digits : Nat) (exponent : Int) : Binary64 :=
  let magnitude := exponent + (decimalDigits digits).length
  if digits = 0 ∨ magnitude < -330 then finite negative 0
  else if 310 < magnitude then infinite negative
  else if 0 ≤ exponent then ofRatio negative (digits * tens exponent.toNat) 1
  else ofRatio negative digits (tens (-exponent).toNat)

def neg : Binary64 → Binary64
  | nan => nan
  | infinite s => infinite !s
  | finite s u => finite (!s) u

/-- A finite number in units, with its sign. -/
def signedUnits (negative : Bool) (units : Nat) : Int := if negative then -(units : Int) else units

def add : Binary64 → Binary64 → Binary64
  | finite s u, finite t v =>
    let sum := signedUnits s u + signedUnits t v
    ofRatio (if sum = 0 then s && t else sum < 0) sum.natAbs one
  | nan, _ | _, nan => nan
  | infinite s, infinite t => if s = t then infinite s else nan
  | infinite s, finite .. | finite .., infinite s => infinite s

def mul : Binary64 → Binary64 → Binary64
  | finite s u, finite t v => ofRatio (s != t) (u * v) (one * one)
  | nan, _ | _, nan => nan
  | infinite s, infinite t => infinite (s != t)
  | infinite s, finite t u | finite t u, infinite s => if u = 0 then nan else infinite (s != t)

/-- The value, if it is a whole number. -/
def toInt? : Binary64 → Option Int
  | finite s u =>
    if u % one = 0 then some (if s then -(u / one : Nat) else (u / one : Nat)) else none
  | _ => none

/-- A zero of either sign. -/
def isZero : Binary64 → Bool
  | finite _ u => u = 0
  | _ => false

/-- Numbers that compare as equal: zeros do whatever their sign, and nan with nothing. -/
def same : Binary64 → Binary64 → Bool
  | nan, _ => false
  | x, y => (x.isZero && y.isZero) || x = y

/-! ## Text -/

/-- The `p` with 10^(p-1) ≤ units · 2⁻¹⁰⁷⁴ < 10^p, of a number that is not zero. -/
def magnitude (units : Nat) : Int :=
  if one ≤ units then (decimalDigits (units / one)).length
  else -(((List.range 330).find? fun j => one ≤ units * tens (j + 1)).getD 330 : Nat)

/-- A number as a fraction whose value is that of the number over `10 ^ exponent`. -/
def fractionAt (units : Nat) (exponent : Int) : Nat × Nat :=
  if 0 ≤ exponent then (units, one * tens exponent.toNat)
  else (units * tens (-exponent).toNat, one)

/-- The nearest decimal of `n` digits, halves to even: its digits, and the `p` for which
it is 0.d₁d₂… · 10^p. -/
def nearest (units n : Nat) : List Char × Int :=
  let p := magnitude units
  let (num, den) := fractionAt units (p - n)
  let d := roundDiv num den
  if units = 0 then (List.replicate n '0', 1)
  else if d = tens n then (decimalDigits (tens (n - 1)), p + 1)
  else (decimalDigits d, p)

/-- Of the two neighbours on the grid of `n`-digit decimals those that read back as the
number; if both do, the nearer one. -/
def onGrid? (units : Nat) (p : Int) (n : Nat) : Option Nat :=
  let exponent := p - n
  let (num, den) := fractionAt units exponent
  let below := num / den
  let reads (d : Nat) : Bool := ofDecimal false d exponent = finite false units
  match reads below, reads (below + 1) with
  | true, true => some (roundDiv num den)
  | true, false => some below
  | false, true => some (below + 1)
  | false, false => none

/-- The fewest digits that read back. Seventeen always do. -/
def shortest (units : Nat) : Nat × Int :=
  let p := magnitude units
  let found := (List.range 17).findSome? fun i =>
    (onGrid? units p (i + 1)).map fun d => (d, p - (i + 1 : Nat))
  found.getD (0, 0)

/-- An exponent with its sign, in two digits at least. -/
def exponentText (e : Int) : List Char :=
  let digits := decimalDigits e.natAbs
  ['e', if e < 0 then '-' else '+'] ++ (if digits.length = 1 then '0' :: digits else digits)

/-- Digits that stand for 0.d₁d₂… · 10^p: positional if the point falls near them, and
otherwise with an exponent. -/
def layout (digits : List Char) (p : Int) : List Char :=
  let zeros (n : Int) : List Char := List.replicate n.toNat '0'
  if -3 ≤ p ∧ p ≤ 16 then
    if p ≤ 0 then ['0', '.'] ++ zeros (-p) ++ digits
    else if digits.length ≤ p then digits ++ zeros (p - digits.length) ++ ['.', '0']
    else digits.take p.toNat ++ '.' :: digits.drop p.toNat
  else
    digits.take 1 ++ (if digits.length = 1 then [] else '.' :: digits.drop 1) ++
      exponentText (p - 1)

def text : Binary64 → String
  | nan => "nan"
  | infinite s => if s then "-inf" else "inf"
  | finite s u =>
    let unsigned :=
      if u = 0 then ['0', '.', '0']
      else
        let (d, exponent) := shortest u
        let all := decimalDigits d
        let kept := (all.reverse.dropWhile (· = '0')).reverse
        layout kept (exponent + all.length)
    String.ofList (if s then '-' :: unsigned else unsigned)

/-! ## Reading -/

/-- The value of ASCII digits. -/
def ofDigits (cs : List Char) : Nat :=
  cs.foldl (fun n c => n * 10 + (c.toNat - '0'.toNat)) 0

/-- An exponent: a sign or none, and digits. -/
def exponent? (cs : List Char) : Option Int :=
  let (negative, cs) : Bool × List Char := match cs with
    | '-' :: cs => (true, cs)
    | '+' :: cs => (false, cs)
    | cs => (false, cs)
  if cs = [] ∨ !cs.all Char.isDigit then none
  else some (if negative then -(ofDigits cs : Int) else ofDigits cs)

/-- A decimal without a sign: digits, perhaps a point among them, and perhaps an
exponent. -/
def unsigned? (negative : Bool) (cs : List Char) : Option Binary64 := do
  let mantissa := cs.takeWhile fun c => c ≠ 'e' && c ≠ 'E'
  let exponent ← match cs.drop mantissa.length with
    | [] => some 0
    | _ :: e => exponent? e
  let whole := mantissa.takeWhile (· ≠ '.')
  let fraction := (mantissa.drop whole.length).drop 1
  if (whole ++ fraction = []) ∨ !(whole ++ fraction).all Char.isDigit then none
  some (ofDecimal negative (ofDigits (whole ++ fraction)) (exponent - fraction.length))

/-- Read a number: a decimal, or one of the names for what is not finite. -/
def ofChars? (cs : List Char) : Option Binary64 :=
  let (negative, cs) : Bool × List Char := match cs with
    | '-' :: cs => (true, cs)
    | '+' :: cs => (false, cs)
    | cs => (false, cs)
  let name := String.ofList (cs.map Char.toLower)
  if name = "inf" ∨ name = "infinity" then some (infinite negative)
  else if name = "nan" then some nan
  else unsigned? negative cs

end Binary64

end InputStaging
