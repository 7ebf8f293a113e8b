import InputStaging.Document
import InputStaging.Text.Casing
import InputStaging.Yaml.Cursor
import InputStaging.Yaml.Tag

/-!
# Values of YAML scalars

What the text of a scalar stands for, if its tag says what type it has. A tag that is
written out can be given to any text, so that far more has to be read than what a plain
scalar of the type looks like.
-/

namespace InputStaging.Yaml

def fault {α : Type} (f : ScalarFault) : Except Fault α := .error (.scalar f)

def ofNumber {α : Type} (x : Except Number.NumberFault α) : Except Fault α :=
  x.mapError fun f => .scalar (.number f)

/-! ## Numbers -/

def splitColons (cs : List Char) : List (List Char) :=
  match cs with
  | [] => [[]]
  | c :: rest =>
    match splitColons rest with
    | [] => [[c]]
    | p :: ps => if c = ':' then [] :: p :: ps else (c :: p) :: ps

/-- Underscores may be anywhere in a number. -/
def withoutUnderscores (text : String) : List Char := text.toList.filter (· ≠ '_')

/-- Parts between colons, each of which counts sixty times as much as the next. -/
def sixtiesOf (parts : List Int) : Int := parts.foldl (fun n d => n * 60 + d) 0

/-- The size of a whole number: binary, octal, hexadecimal, in sixties, or decimal. -/
def wholeOf (cs : List Char) : Except Fault Int :=
  match cs with
  | [] => fault .noNumber
  | ['0'] => .ok 0
  | '0' :: 'b' :: ds => ofNumber (Number.readInt 2 ds)
  | '0' :: 'x' :: ds => ofNumber (Number.readInt 16 ds)
  | '0' :: _ => ofNumber (Number.readInt 8 cs)
  | _ => ofNumber (((splitColons cs).mapM (Number.readInt 10)).map sixtiesOf)

/-- A whole number. A text without anything in it has no sign to be split off. -/
def intOf (text : String) : Except Fault Int :=
  let (negative, cs) := Number.signed (withoutUnderscores text)
  (wholeOf cs).map fun n => if negative then -n else n

/-- The sum of parts, the last of which come first, where each counts sixty times as much
as the one before. The weight of a part is a floating-point number, too. -/
def realSixties (sum : Binary64) (weight : Nat) : List Binary64 → Except Number.NumberFault Binary64
  | [] => .ok sum
  | x :: xs => do
    let w ← Number.toReal weight
    realSixties (sum.add (x.mul w)) (weight * 60) xs

/-- The text of a floating-point number: without underscores, and in lower case. -/
def realText (text : String) : List Char := Text.lower (withoutUnderscores text)

/-- The text names what is not a number, rather than to spell it out. -/
def namesNaN (text : String) : Bool := (Number.signed (realText text)).2 = ".nan".toList

/-- A floating-point number, perhaps in sixties. -/
def floatOf (text : String) : Except Fault Binary64 := do
  let (negative, cs) := Number.signed (realText text)
  let size ←
    if cs = [] ∧ realText text = [] then fault .noNumber
    else if cs = ".inf".toList then pure (Binary64.infinite false)
    else if cs = ".nan".toList then pure Binary64.nan
    else if cs.contains ':' then ofNumber do
      realSixties .zero 1 (← (splitColons cs).mapM Number.readReal).reverse
    else ofNumber (Number.readReal cs)
  return if negative then size.neg else size

/-! ## Truth values -/

def truths : List (String × Bool) :=
  [("yes", true), ("no", false), ("true", true), ("false", false), ("on", true),
   ("off", false)]

def boolOf (text : String) : Except Fault Bool :=
  let name := String.ofList (Text.lower text.toList)
  match truths.lookup name with
  | some b => .ok b
  | none => fault (.truth name)

/-! ## Dates and times -/

/-- Leading digits, and what follows them. -/
def number (cs : List Char) : Nat × List Char :=
  let ds := cs.takeWhile Char.isDigit
  (Binary64.ofDigits ds, cs.drop ds.length)

/-- Digits behind the point as millionths; what is finer is cut. -/
def millionths (ds : List Char) : Nat :=
  let ds := ds.take 6
  Binary64.ofDigits (ds ++ List.replicate (6 - ds.length) '0')

/-- The distance from universal time, in seconds. -/
def zone (cs : List Char) : Option Int :=
  match cs with
  | [] => none
  | 'Z' :: _ => some 0
  | sign :: cs =>
    let (hours, cs) := number cs
    let (minutes, _) := number (cs.drop 1)
    let seconds : Int := (hours * 60 + minutes : Nat) * 60
    some (if sign = '-' then -seconds else seconds)

/-- Dates whose month and day may have one digit. -/
def looseDates : Text.Pattern :=
  let few := Text.Pattern.all [.digit, .opt .digit]
  Text.Pattern.all [.digit, .digit, .digit, .digit, .one '-', few, .one '-', few]

/-- A date, or a date and a time of day. -/
def timestampOf (text : String) : Except Fault Document := do
  let cs := Tag.withoutLineEnd text.toList
  unless Tag.timestamps.accepts cs || looseDates.accepts cs do fault .noTimestamp
  let (year, cs) := number cs
  let (month, cs) := number (cs.drop 1)
  let (day, cs) := number (cs.drop 1)
  let onCalendar {α : Type} (x : Except CalendarFault α) : Except Fault α :=
    x.mapError fun f => .scalar (.calendar f)
  if cs = [] then return .date (← onCalendar (Date.make year month day))
  let (hour, cs) := number (cs.dropWhile fun c => !c.isDigit)
  let (minute, cs) := number (cs.drop 1)
  let (second, cs) := number (cs.drop 1)
  let fraction := if cs.head? = some '.' then (cs.drop 1).takeWhile Char.isDigit else []
  let cs := if cs.head? = some '.' then cs.drop (fraction.length + 1) else cs
  let offset := zone (cs.dropWhile isSpaceOrTab)
  return .timestamp (← onCalendar
    (Timestamp.make year month day hour minute second (millionths fraction) offset))

/-! ## Bytes -/

/-- The value of a character among 64. -/
def sixtyFour? (c : Char) : Option Nat :=
  if 'A' ≤ c ∧ c ≤ 'Z' then some (c.toNat - 'A'.toNat)
  else if 'a' ≤ c ∧ c ≤ 'z' then some (c.toNat - 'a'.toNat + 26)
  else if c.isDigit then some (c.toNat - '0'.toNat + 52)
  else if c = '+' then some 62
  else if c = '/' then some 63
  else none

/-- Bytes from groups of four characters, after those that were read, the last of them
first. Padding ends the last group, and with it the text; other characters are passed
over. -/
def binaryOf (read : List UInt8) (group : List Nat) (pads : Nat) :
    List Char → Except Fault (List UInt8)
  | [] => if group = [] then .ok read.reverse else .error (.malformed .badBinary)
  | c :: cs =>
    let value := group.foldl (fun n d => n * 64 + d) 0
    if c = '=' then
      if 2 ≤ group.length ∧ 4 ≤ group.length + pads + 1 then
        if group.length = 2 then .ok (UInt8.ofNat (value / 16) :: read).reverse
        else .ok (UInt8.ofNat (value / 4 % 256) :: UInt8.ofNat (value / 1024) :: read).reverse
      else binaryOf read group (pads + 1) cs
    else
      match sixtyFour? c with
      | none => binaryOf read group pads cs
      | some d =>
        if group.length = 3 then
          let value := value * 64 + d
          binaryOf (UInt8.ofNat (value % 256) :: UInt8.ofNat (value / 256 % 256) ::
            UInt8.ofNat (value / 65536) :: read) [] 0 cs
        else binaryOf read (group ++ [d]) 0 cs

def bytesOf (text : String) : Except Fault (List UInt8) :=
  if text.toList.all fun c => c.toNat < 0x80 then binaryOf [] [] 0 text.toList
  else .error (.malformed .badBinary)

/-! ## All types -/

/-- The type is one of scalars. -/
def Tag.isScalar : Tag → Bool
  | .null | .bool | .int | .float | .binary | .timestamp | .text => true
  | _ => false

/-- What a scalar stands for. -/
def scalarOf (tag : Tag) (text : String) : Except Fault Document :=
  match tag with
  | .null => .ok .null
  | .bool => (boolOf text).map .bool
  | .int => (intOf text).map .int
  | .float => (floatOf text).map .float
  | .binary => (bytesOf text).map .bytes
  | .timestamp => timestampOf text
  | .text => .ok (.text text)
  | _ => .error (.malformed (.unknownTag tag.uri))

end InputStaging.Yaml
