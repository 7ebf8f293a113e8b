import InputStaging.Document
import InputStaging.Text.Quoted

/-!
# Literals

How messages spell a value: text in quotes, lists in brackets, mappings in braces.
-/

namespace InputStaging

namespace Document

def literals (xs : List String) : String := ", ".intercalate xs

def dateLiteral (d : Date) : String := s!"datetime.date({d.year}, {d.month}, {d.day})"

/-- The distance from universal time. -/
def offsetLiteral (seconds : Int) : String :=
  if seconds = 0 then "datetime.timezone.utc" else s!"datetime.timezone({spanText seconds})"

/-- Seconds and their millionths are left out if they are zero. -/
def timestampLiteral (t : Timestamp) : String :=
  let finer := if t.microsecond ≠ 0 then [t.second, t.microsecond]
    else if t.second ≠ 0 then [t.second] else []
  let numbers := [t.date.year, t.date.month, t.date.day, t.hour, t.minute] ++ finer
  let offset := t.offset.map fun o => "tzinfo=" ++ offsetLiteral o
  "datetime.datetime(" ++ literals (numbers.map toString ++ offset.toList) ++ ")"

mutual

def literal : Document → String
  | null => "None"
  | bool b => if b then "True" else "False"
  | int n => toString n
  | float x => x.text
  | text s => Text.quoted s
  | bytes bs => Text.quotedBytes bs
  | date d => dateLiteral d
  | timestamp t => timestampLiteral t
  | list xs => "[" ++ literals (itemLiterals xs) ++ "]"
  | set xs => "\x7b" ++ literals (itemLiterals xs) ++ "\x7d"
  | mapping es => "\x7b" ++ literals (entryLiterals es) ++ "\x7d"

def itemLiterals : List Document → List String
  | [] => []
  | x :: xs => x.literal :: itemLiterals xs

def entryLiterals : List (Document × Document) → List String
  | [] => []
  | (k, v) :: es => (k.literal ++ ": " ++ v.literal) :: entryLiterals es

end

/-- As a literal, but a text on its own is itself. -/
def plain : Document → String
  | text s => s
  | d => d.literal

end Document

end InputStaging
