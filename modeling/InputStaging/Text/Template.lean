import InputStaging.Document.Literal
import InputStaging.Number.Reading
import InputStaging.Text.Field

/-!
# Message templates

A template is text with conversions, each of which takes an argument: `%s` as it is, `%r`
as a literal, `%a` as one in ASCII, `%d` as a whole number, `%x` and `%o` in another base,
`%c` as a character, `%f` with fixed places, `%e` with an exponent, `%g` whichever of these
two is fit. Width and precision are given in digits, or by arguments of their own where
they are asterisks. `%%` is a percent sign and takes none. The arguments come one after the
other, or, if there is but one and it is a mapping, by their names.
-/

namespace InputStaging.Text

inductive TemplateFault where
  | incomplete
  | incompleteName
  | unknownConversion (kind : Char) (at_ : Nat)
  | tooFewArguments
  | tooManyArguments
  | withoutNames
  | noSuchName (name : String)
  | notNumber (kind : Char) (type : String)
  | notInteger (kind : Char) (type : String)
  | notReal (type : String)
  | notCharacter
  | characterRange
  | nanToInteger
  | infinityToInteger
  | beyondReals
  /-- The width, or the precision, is to be given by something that is no whole number. -/
  | sizeNotInteger
  | widthDigits
  | precisionDigits
  | widthWord
  | precisionWord
  | precisionTooLarge
  /-- The field is too wide for any memory. -/
  | outOfMemory
  deriving DecidableEq

namespace TemplateFault

def message : TemplateFault → String
  | incomplete => "incomplete format"
  | incompleteName => "incomplete format key"
  | unknownConversion kind at_ =>
    let code := codePoint kind
    let shown := if 0x1F ≤ code && code < 0x7F then String.singleton kind else "?"
    s!"unsupported format character '{shown}' (0x{String.ofList (Nat.toDigits 16 code)}) at index {at_}"
  | tooFewArguments => "not enough arguments for format string"
  | tooManyArguments => "not all arguments converted during string formatting"
  | withoutNames => "format requires a mapping"
  | noSuchName name => quoted name
  | notNumber kind type => s!"%{kind} format: a real number is required, not {type}"
  | notInteger kind type => s!"%{kind} format: an integer is required, not {type}"
  | notReal type => s!"must be real number, not {type}"
  | notCharacter => "%c requires int or char"
  | characterRange => "%c arg not in range(0x110000)"
  | nanToInteger => "cannot convert float NaN to integer"
  | infinityToInteger => "cannot convert float infinity to integer"
  | beyondReals => "int too large to convert to float"
  | sizeNotInteger => "* wants int"
  | widthDigits => "width too big"
  | precisionDigits => "precision too big"
  | widthWord => "Python int too large to convert to C ssize_t"
  | precisionWord => "Python int too large to convert to C int"
  | precisionTooLarge => "precision too large"
  | outOfMemory => ""

end TemplateFault

/-! ## Conversions -/

/-- The largest precision of a whole number. -/
def mostPlaces : Nat := 2147483644

/-- The integer part of a number. -/
def truncated (kind : Char) : Document → Except TemplateFault Int
  | .int n => .ok n
  | .bool b => .ok b.toInt
  | .float .nan => .error .nanToInteger
  | .float (.infinite _) => .error .infinityToInteger
  | .float (.finite s units) =>
    let n := units / Binary64.one
    .ok (if s then -(n : Int) else n)
  | d => .error (.notNumber kind d.typeName)

/-- Bases other than ten are for whole numbers only. -/
def integer (kind : Char) : Document → Except TemplateFault Int
  | .int n => .ok n
  | .bool b => .ok b.toInt
  | d => .error (.notInteger kind d.typeName)

def ofWhole (n : Int) : Except TemplateFault Binary64 :=
  (Number.toReal n).mapError fun _ => .beyondReals

def number : Document → Except TemplateFault Binary64
  | .int n => ofWhole n
  | .bool b => ofWhole b.toInt
  | .float x => .ok x
  | d => .error (.notReal d.typeName)

/-- A text of one character, or the number of a character. -/
def character : Document → Except TemplateFault (List Char)
  | .text s => if (codePoints s.toList).length = 1 then .ok s.toList else .error .notCharacter
  | .int n => ofNumber n
  | .bool b => ofNumber b.toInt
  | _ => .error .notCharacter
where
  ofNumber (n : Int) : Except TemplateFault (List Char) :=
    if 0 ≤ n ∧ n ≤ lastCodePoint then .ok (writing n.toNat) else .error .characterRange

/-- One argument, converted. -/
def convert (f : Field) (kind : Char) (at_ : Nat) (d : Document) :
    Except TemplateFault (List Char) :=
  let cut (s : String) : List Char :=
    match f.places with
    | some n => ((codePoints s.toList).take n).flatMap writing
    | none => s.toList
  let inBase (n : Int) : Except TemplateFault (List Char) :=
    if mostPlaces < f.places.getD 0 then .error .precisionTooLarge else .ok (whole f kind n)
  match kind with
  | 's' => .ok (pad f (cut d.plain))
  | 'r' => .ok (pad f (cut d.literal))
  | 'a' => .ok (pad f (cut (asciiOnly d.literal)))
  | 'd' | 'i' | 'u' => do inBase (← truncated kind d)
  | 'x' | 'X' | 'o' => do inBase (← integer kind d)
  | 'f' | 'F' | 'e' | 'E' | 'g' | 'G' => do return real f kind (← number d)
  | 'c' => do return pad f (← character d)
  | kind => .error (.unknownConversion kind at_)

/-! ## Arguments -/

/-- Where arguments come from. -/
inductive Supply where
  | inOrder (args : List Document)
  /-- By name; whichever was named last, or at first the mapping itself, can be taken
  once. -/
  | byName (entries : List (Document × Document)) (next : Option Document)

namespace Supply

def ofArguments : List Document → Supply
  | [.mapping (e :: es)] => byName (e :: es) (some (.mapping (e :: es)))
  | args => inOrder args

def take : Supply → Except TemplateFault (Document × Supply)
  | inOrder (d :: args) => .ok (d, inOrder args)
  | byName es (some d) => .ok (d, byName es none)
  | inOrder [] | byName _ none => .error .tooFewArguments

def name (s : Supply) (key : String) : Except TemplateFault Supply :=
  match s with
  | inOrder _ => .error .withoutNames
  | byName es _ =>
    match Document.valueOf? es key with
    | some d => .ok (byName es (some d))
    | none => .error (.noSuchName key)

/-- Arguments in order must not be left over. -/
def close : Supply → Except TemplateFault Unit
  | inOrder (_ :: _) => .error .tooManyArguments
  | _ => .ok ()

end Supply

/-! ## Templates -/

/-- What is left of a template and of its arguments. -/
structure Filling where
  rest : List Char
  index : Nat := 0
  supply : Supply

abbrev Fill := StateT Filling (Except TemplateFault)

namespace Fill

def peek : Fill (Option Char) := return (← get).rest.head?

def drop (n : Nat) : Fill Unit :=
  modify fun s => { s with rest := s.rest.drop n, index := s.index + n }

/-- Drop a character if it is next. -/
def accept (c : Char) : Fill Bool := do
  if (← peek) = some c then
    drop 1
    return true
  return false

def resupply (supply : Supply) : Fill Unit := modify fun s => { s with supply }

def check (failed : Prop) [Decidable failed] (fault : TemplateFault) : Fill Unit :=
  if failed then throw fault else return ()

def argument : Fill Document := do
  let (d, supply) ← (← get).supply.take
  resupply supply
  return d

/-- A name up to the parenthesis that closes the one before it: its length. -/
def nameLength? (opened : Nat) : List Char → Option Nat
  | [] => none
  | c :: cs =>
    if c = ')' ∧ opened = 0 then some 0
    else
      let opened := if c = '(' then opened + 1 else if c = ')' then opened - 1 else opened
      (nameLength? opened cs).map (· + 1)

/-- The name in front of a conversion. -/
def argumentName : Fill Unit := do
  if ← accept '(' then
    let s ← get
    match s.supply, nameLength? 0 s.rest with
    | .inOrder _, _ => throw .withoutNames
    | .byName .., none => throw .incompleteName
    | .byName .., some n =>
      resupply (← s.supply.name (String.ofList (s.rest.take n)))
      drop (n + 1)

def flag? (f : Field) : Char → Option Field
  | '-' => some { f with left := true }
  | '0' => some { f with zeros := true }
  | '+' => some { f with plus := true }
  | ' ' => some { f with blank := true }
  | '#' => some { f with marked := true }
  | _ => none

def flags (f : Field) : Nat → Fill Field
  | 0 => return f
  | fuel + 1 => do
    match (← peek).bind (flag? f) with
    | some f =>
      drop 1
      flags f fuel
    | none => return f

/-- A number in digits, perhaps none. -/
def digits (most : Nat) (tooBig : TemplateFault) : Fill Nat := do
  let ds := (← get).rest.takeWhile Char.isDigit
  let n := Binary64.ofDigits ds
  check (most < n) tooBig
  drop ds.length
  return n

def size : Document → Except TemplateFault Int
  | .int n => .ok n
  | .bool b => .ok b.toInt
  | _ => .error .sizeNotInteger

/-- A number that is given by an argument. -/
def argumentSize (most : Nat) (tooBig : TemplateFault) : Fill Int := do
  let n ← size (← argument)
  check ((most : Int) < n ∨ n < -(most : Int) - 1) tooBig
  return n

def mostWidth : Nat := 9223372036854775807

def mostPrecision : Nat := 2147483647

/-- The width. A negative one, which only arguments can be, turns the field round. The least
of all has no opposite, and leaves the field without a width. -/
def width (f : Field) : Fill Field := do
  if ← accept '*' then
    let n ← argumentSize mostWidth .widthWord
    return { f with width := if mostWidth < n.natAbs then 0 else n.natAbs, left := f.left || n < 0 }
  return { f with width := ← digits mostWidth .widthDigits }

/-- The precision. A negative one counts as none at all. -/
def precision (f : Field) : Fill Field := do
  if ← accept '.' then
    if ← accept '*' then
      return { f with places := some (← argumentSize mostPrecision .precisionWord).toNat }
    return { f with places := some (← digits mostPrecision .precisionDigits) }
  return f

/-- A letter that says how long a number is has no meaning here. -/
def lengthMark : Fill Unit := do
  if (← peek).any fun c => c = 'l' || c = 'h' || c = 'L' then drop 1

/-- Fields of more characters than this fit into no memory. -/
def widest : Nat := 4294967296

/-- A field that fits into no memory is found out after its argument has been converted. -/
def held (f : Field) (kind : Char) (at_ : Nat) (d : Document) :
    Except TemplateFault (List Char) := do
  if widest < f.width then
    discard (convert { f with width := 0 } kind at_ d)
    throw .outOfMemory
  convert f kind at_ d

/-- A conversion; the percent sign has been read. -/
def conversion : Fill (List Char) := do
  argumentName
  let f ← flags {} (← get).rest.length
  let f ← precision (← width f)
  lengthMark
  let some kind ← peek | throw .incomplete
  let at_ := (← get).index
  drop 1
  held f kind at_ (← argument)

/-- The rest of a message, after what has been written, the last character first. -/
def fill (written : List Char) : Nat → Fill (List Char)
  | 0 => return written.reverse
  | fuel + 1 => do
    match (← get).rest with
    | [] =>
      (← get).supply.close
      return written.reverse
    | '%' :: '%' :: _ =>
      drop 2
      fill ('%' :: written) fuel
    | '%' :: _ =>
      drop 1
      fill ((← conversion).reverseAux written) fuel
    | c :: _ =>
      drop 1
      fill (c :: written) fuel

end Fill

/-- The message of a template and its arguments. Without any, a template is text. -/
def format (template : String) (args : List Document) : Except TemplateFault String := do
  if args.isEmpty then return template
  let start : Filling := { rest := template.toList, supply := .ofArguments args }
  let (cs, _) ← (Fill.fill [] (start.rest.length + 1)).run start
  return String.ofList cs

end InputStaging.Text
