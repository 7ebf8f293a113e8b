import InputStaging.Number.Binary64
import InputStaging.Text.Blank
import InputStaging.Text.Digit
import InputStaging.Text.Quoted

/-!
# Reading numbers

Whole numbers in a base, and floating-point numbers, as texts write them: with blanks
around them, and in the digits of any script.
-/

namespace InputStaging.Number

open Text (digit?)

/-- Why a text is no number, or a number has no form. -/
inductive NumberFault where
  /-- No whole number in this base. -/
  | notWhole (base : Nat) (text : String)
  | tooManyDigits (count : Nat)
  /-- No floating-point number. -/
  | notReal (text : String)
  /-- No floating-point number is near enough. -/
  | beyondReals
  deriving DecidableEq, Repr

/-- The most decimal digits that are read as a number. -/
def mostDigits : Nat := 4300

/-- A number in tens, unless that takes too many digits. -/
def decimal? (n : Int) : Option String :=
  if mostDigits < (toString n.natAbs).length then none else some (toString n)

/-- A text that cannot be read is repeated up to this length. -/
def longestExcerpt : Nat := 200

def NumberFault.message : NumberFault → String
  | notWhole base text =>
    let excerpt := String.ofList ((Text.quoted text).toList.take longestExcerpt)
    s!"invalid literal for int() with base {base}: {excerpt}"
  | tooManyDigits count =>
    s!"Exceeds the limit ({mostDigits} digits) for integer string conversion: value has {count} digits; use sys.set_int_max_str_digits() to increase the limit"
  | notReal text => s!"could not convert string to float: {Text.quoted text}"
  | beyondReals => "int too large to convert to float"

/-- The blanks within ASCII that may stand around a number. -/
def isSpace (c : Char) : Bool := c = ' ' || ('\t' ≤ c && c ≤ '\x0d')

/-- Digits of all scripts as ASCII digits, and blanks outside ASCII as spaces. -/
def canonical (cs : List Char) : List Char :=
  cs.map fun c =>
    if c.toNat < 0x80 then c
    else if Text.isBlank c then ' '
    else ((digit? c).map Nat.digitChar).getD c

/-- What a digit stands for in a base up to 16. -/
def digitIn? (base : Nat) (c : Char) : Option Nat :=
  let value :=
    if c.isDigit then some (c.toNat - '0'.toNat)
    else if 'a' ≤ c ∧ c ≤ 'f' then some (c.toNat - 'a'.toNat + 10)
    else if 'A' ≤ c ∧ c ≤ 'F' then some (c.toNat - 'A'.toNat + 10)
    else none
  value.filter (· < base)

/-- The value of digits in a base. -/
def ofDigits (base : Nat) (cs : List Char) : Nat :=
  cs.foldl (fun n c => n * base + (digitIn? base c).getD 0) 0

/-- Split off a sign; whether it is a minus sign. -/
def signed : List Char → Bool × List Char
  | '-' :: cs => (true, cs)
  | '+' :: cs => (false, cs)
  | cs => (false, cs)

/-- A number may begin with the mark of its base. -/
def dropMark (base : Nat) (cs : List Char) : List Char :=
  let marks : List (List Char) := match base with
    | 2 => [['0', 'b'], ['0', 'B']]
    | 8 => [['0', 'o'], ['0', 'O']]
    | 16 => [['0', 'x'], ['0', 'X']]
    | _ => []
  if cs.take 2 ∈ marks then cs.drop 2 else cs

/-- The whole number that a text writes in a base. Digits are counted before anything
behind them is looked at. -/
def readInt (base : Nat) (text : List Char) : Except NumberFault Int :=
  let (negative, cs) := signed (Text.trim isSpace (canonical text))
  let cs := dropMark base cs
  let ds := cs.takeWhile fun c => (digitIn? base c).isSome
  if base = 10 ∧ mostDigits < ds.length then .error (.tooManyDigits ds.length)
  else if ds = [] ∨ ds.length < cs.length then .error (.notWhole base (String.ofList text))
  else .ok (if negative then -(ofDigits base ds : Int) else ofDigits base ds)

/-- The floating-point number that a text writes. -/
def readReal (text : List Char) : Except NumberFault Binary64 :=
  match Binary64.ofChars? (Text.trim isSpace (canonical text)) with
  | some x => .ok x
  | none => .error (.notReal (String.ofList text))

/-- The floating-point number nearest to a whole number, if there is one. -/
def toReal (n : Int) : Except NumberFault Binary64 :=
  match Binary64.ofInt n with
  | .finite s u => .ok (.finite s u)
  | _ => .error .beyondReals

end InputStaging.Number
