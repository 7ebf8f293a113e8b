import InputStaging.Calendar
import InputStaging.Number.Binary64

/-!
# Documents

A document as it comes out of a file: scalars, lists, and mappings whose keys may be
any scalar. The entries of a mapping keep their order.
-/

namespace InputStaging

inductive Document where
  | null
  | bool (b : Bool)
  | int (n : Int)
  | float (x : Binary64)
  | text (s : String)
  | bytes (bs : List UInt8)
  | date (d : Date)
  | timestamp (t : Timestamp)
  | list (xs : List Document)
  /-- The elements in the order in which they come out of the set. -/
  | set (xs : List Document)
  | mapping (entries : List (Document × Document))
  deriving Inhabited

namespace Document

/-- The whole number that a scalar is equal to. -/
def whole? : Document → Option Int
  | bool b => some b.toInt
  | int n => some n
  | float x => x.toInt?
  | _ => none

/-- Scalars that a mapping takes for the same key. Numbers are compared by value,
whatever their form. -/
def sameKey (a b : Document) : Bool :=
  match a, b with
  | null, null => true
  | text s, text t => s = t
  | bytes s, bytes t => s = t
  | date d, date e => d = e
  | timestamp t, timestamp u => t.same u
  | float x, float y => x.same y
  | a, b =>
    match a.whole?, b.whole? with
    | some m, some n => m = n
    | _, _ => false

def isText : Document → Bool
  | text _ => true
  | _ => false

/-- Scalars can be keys. -/
def canBeKey : Document → Bool
  | list _ | set _ | mapping _ => false
  | _ => true

/-- Write an entry: the value is replaced where the key stands. -/
def putEntry {κ α : Type} (same : κ → κ → Bool) (k : κ) (v : α) : List (κ × α) → List (κ × α)
  | [] => [(k, v)]
  | (k', v') :: rest =>
    if same k' k then (k', v) :: rest else (k', v') :: putEntry same k v rest

/-- Entries in order; of two entries with one key the later value stands in the place of
the earlier. -/
def distinct {κ α : Type} (same : κ → κ → Bool) (es : List (κ × α)) : List (κ × α) :=
  es.foldl (fun acc e => putEntry same e.1 e.2 acc) []

def ofEntries (es : List (Document × Document)) : Document := mapping (distinct sameKey es)

/-- The value beside a text key. -/
def valueOf? (es : List (Document × Document)) (name : String) : Option Document :=
  match es with
  | [] => none
  | (text s, v) :: rest => if s = name then some v else valueOf? rest name
  | _ :: rest => valueOf? rest name

/-- Documents that stand for nothing: null, no, zero, and what is empty. -/
def isBlank : Document → Bool
  | null => true
  | bool b => !b
  | int n => n = 0
  | float x => x.isZero
  | text s => s.isEmpty
  | bytes bs => bs.isEmpty
  | list xs | set xs => xs.isEmpty
  | mapping es => es.isEmpty
  | date _ | timestamp _ => false

/-- A blank document is an empty mapping. -/
def orEmpty (d : Document) : Document := if d.isBlank then mapping [] else d

def typeName : Document → String
  | null => "NoneType"
  | bool _ => "bool"
  | int _ => "int"
  | float _ => "float"
  | text _ => "str"
  | bytes _ => "bytes"
  | date _ => "date"
  | timestamp _ => "datetime"
  | list _ => "list"
  | set _ => "set"
  | mapping _ => "dict"

/-- The text of a text, and of bytes that encode one. -/
def text? : Document → Option String
  | text s => some s
  | bytes bs => String.fromUTF8? (ByteArray.mk bs.toArray)
  | _ => none

end Document

/-- The order in which the elements of a set come out of it, which need not be the one in which
they are written. -/
structure SetOrder where
  arrange : List Document → List Document
  perm : ∀ ds, (arrange ds).Perm ds

namespace SetOrder

/-- Elements come out as they are written. -/
def written : SetOrder := ⟨id, fun _ => .refl _⟩

end SetOrder

end InputStaging
