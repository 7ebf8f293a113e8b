import InputStaging.Document.Literal
import InputStaging.Number.Lenient
import InputStaging.Text.Casing

/-!
# Reading documents by a schema

A reader takes a document to a value, or to everything that is wrong with it. What is
wrong is collected over the whole document, in the order of the schema's fields and of
the document's entries.
-/

namespace InputStaging

/-- A step on the way from a document to a part of it. -/
inductive Step where
  | field (name : String)
  | index (n : Nat)
  | key (k : Document)
  /-- The key of an entry, as against its value. -/
  | theKey

/-- How a report names a step: by a number or by a text. -/
inductive Place where
  | number (n : Int)
  | name (s : String)
  deriving DecidableEq, Repr

/-- A signed number of 64 bits. -/
def fitsWord (n : Int) : Bool := -9223372036854775808 ≤ n && n < 9223372036854775808

/-- How a report names a number that is too long to be written. -/
def longNumber : String := "<unprintable int object>"

/-- A text names itself, with replacement characters for what cannot be encoded. Numbers
of 64 bits and truth values are numbers; any other key is named by its literal. -/
def Step.place : Step → Place
  | field name => .name name
  | index n => .number n
  | key (.text s) => .name (Text.replaceHalves s)
  | key (.bool b) => .number b.toInt
  | key (.int n) => if fitsWord n then .number n
    else .name ((Number.decimal? n).getD longNumber)
  | key d => .name d.literal
  | theKey => .name "[key]"

/-- What a document was expected to be. -/
inductive Expectation where
  | text
  | encodedText
  | list
  | mapping
  | record
  | present
  | member
  | literal
  | truth
  | truthName
  | int
  | intText
  | intSize
  | wholeNumber
  | finiteNumber
  | atLeastOne
  | path
  | value
  deriving DecidableEq, Repr

/-- The code under which a violated expectation is reported. -/
def Expectation.code : Expectation → String
  | text => "string_type"
  | encodedText => "string_unicode"
  | list => "list_type"
  | mapping => "dict_type"
  | record => "model_type"
  | present => "missing"
  | member => "enum"
  | literal => "literal_error"
  | truth => "bool_type"
  | truthName => "bool_parsing"
  | int => "int_type"
  | intText => "int_parsing"
  | intSize => "int_parsing_size"
  | wholeNumber => "int_from_float"
  | finiteNumber => "finite_number"
  | atLeastOne => "greater_than_equal"
  | path => "path_type"
  | value => "value_error"

structure Violation where
  location : List Step := []
  expected : Expectation

/-- A value, or all the violations that stand in its way. -/
abbrev Checked (α : Type) := Except (List Violation) α

namespace Checked

variable {α β : Type}

def refuse (e : Expectation) : Checked α := .error [{ expected := e }]

def under (s : Step) : Checked α → Checked α
  | .ok a => .ok a
  | .error vs => .error (vs.map fun v => { v with location := s :: v.location })

/-- Both, or the violations of both. -/
def and (x : Checked α) (y : Checked β) : Checked (α × β) :=
  match x, y with
  | .ok a, .ok b => .ok (a, b)
  | .error vs, .ok _ => .error vs
  | .ok _, .error ws => .error ws
  | .error vs, .error ws => .error (vs ++ ws)

def all : List (Checked α) → Checked (List α)
  | [] => .ok []
  | x :: xs => (x.and (all xs)).map fun (a, as) => a :: as

end Checked

namespace Document

abbrev Reader (α : Type) := Document → Checked α

variable {α : Type}

def readText : Reader String := fun d =>
  match d with
  | text s => .ok s
  | bytes _ => (d.text?.map .ok).getD (.refuse .encodedText)
  | _ => .refuse .text

/-- Null stands for nothing. -/
def orNull (read : Reader α) : Reader (Option α)
  | null => .ok none
  | d => (read d).map some

/-- The elements from position `i` on. -/
def readItems (read : Reader α) (i : Nat) : List Document → Checked (List α)
  | [] => .ok []
  | d :: ds =>
    ((read d).under (.index i) |>.and (readItems read (i + 1) ds)).map fun (a, as) => a :: as

/-- The elements of a list, or of a set in the order in which they come out of it. -/
def readList (read : Reader α) : Reader (List α)
  | list ds | set ds => readItems read 0 ds
  | _ => .refuse .list

/-- An entry whose key has to be text. The value is looked at whatever the key is. -/
def readEntry (read : Reader α) (e : Document × Document) : Checked (String × α) :=
  ((readText e.1).under .theKey |>.and (read e.2)).under (.key e.1)

/-- Entries with text keys. Different keys may be the same text. -/
def readEntries (read : Reader α) : Reader (List (String × α))
  | mapping es => (Checked.all (es.map (readEntry read))).map (distinct fun k l => k = l)
  | _ => .refuse .mapping

/-- The field of a record; a field that is not there has its default. -/
def readField (name : String) (absent : Checked α) (read : Reader α)
    (es : List (Document × Document)) : Checked α :=
  ((valueOf? es name).elim absent read).under (.field name)

def readRecord (read : List (Document × Document) → Checked α) : Reader α
  | mapping es => read es
  | _ => .refuse .record

/-- A name of one of several things, whatever its case and the blanks around it. -/
def readName (names : List (String × α)) (e : Expectation) : Reader α
  | text s =>
    let name := String.ofList (Text.lower (Text.trim Text.isBlankOrSeparator s.toList))
    if Text.isEncodable name then ((names.lookup name).map .ok).getD (.refuse e)
    else .refuse .encodedText
  | _ => .refuse e

/-- Read a text, or bytes that encode one. -/
def readEncoded (e : Expectation) (read : String → Checked α) : Reader α := fun d =>
  match d.text? with
  | some s => if Text.isEncodable s then read s else .refuse .encodedText
  | none => .refuse e

def truthNames : List (String × Bool) :=
  ["0", "off", "f", "false", "n", "no"].map (·, false) ++
    ["1", "on", "t", "true", "y", "yes"].map (·, true)

def truthOfName (s : String) : Checked Bool :=
  ((truthNames.lookup (String.ofList (s.toList.map Char.toLower))).map .ok).getD
    (.refuse .truthName)

def truthOfWhole (n : Int) : Checked Bool :=
  if n = 0 then .ok false else if n = 1 then .ok true else .refuse .truthName

/-- A floating-point number without fraction whose size is less than 2⁶³. -/
def wholeInWord? (x : Binary64) : Option Int :=
  x.toInt?.filter fun n => fitsWord n && fitsWord (-n)

/-- A truth value, one of its names in any case, or the numbers 0 and 1. A number that does
not fit into 64 bits is no candidate. -/
def readBool : Reader Bool := fun d =>
  match d with
  | bool b => .ok b
  | int n => if fitsWord n then truthOfWhole n else .refuse .truth
  | float x => ((wholeInWord? x).map truthOfWhole).getD (.refuse .truth)
  | text _ | bytes _ => readEncoded .truthName truthOfName d
  | _ => .refuse .truth

/-- A whole number in decimal. -/
def wholeOfText (s : String) : Checked Int :=
  match Number.lenientWhole s.toList with
  | .ok n => .ok n
  | .error .noNumber => .refuse .intText
  | .error .tooLong => .refuse .intSize

/-- A whole number: itself, a truth value as 1 or 0, a floating-point number without
fraction that fits into 64 bits, or the text of one. -/
def readInt : Reader Int := fun d =>
  match d with
  | bool b => .ok b.toInt
  | int n => .ok n
  | float .nan | float (.infinite _) => .refuse .finiteNumber
  | float x =>
    match x.toInt?, wholeInWord? x with
    | none, _ => .refuse .wholeNumber
    | some _, some n => .ok n
    | some _, none => .refuse .intSize
  | text _ | bytes _ => readEncoded .intText wholeOfText d
  | _ => .refuse .int

def readPositive : Reader { n : Nat // 1 ≤ n } := fun d => do
  let n ← readInt d
  if h : 1 ≤ n then .ok ⟨n.toNat, by omega⟩ else .refuse .atLeastOne

end Document

end InputStaging
