import InputStaging.Ledger
import InputStaging.Text.Json

/-!
# Listings of a mapping

Two forms of one listing: a text with one `<destination> <source>` line per entry, and
records that can be written as JSON. Both go through the destinations in path order.
The text does not escape what stands in a path.
-/

namespace InputStaging

/-- Where the content of an input comes from; the placeholder has no source. -/
def Input.source? (v : Input) : Option String := v.execPath?.map Path.text

/-- The kind of an input, where it is to be described. Kinds that are not known have no name
for that. -/
def Input.description : Input → Except Failure String
  | .artifact ⟨_, .other _⟩ => .error .namelessKind
  | v => .ok v.label

namespace Listing

structure Row where
  path : String
  kind : String
  source : Option String
  deriving DecidableEq

def row (e : Path × Input) : Row := ⟨e.1.text, e.2.label, e.2.source?⟩

def rows (t : Table Path Input) : List Row := t.sorted.map row

/-- The rows, unless one of them cannot be described. -/
def described (t : Table Path Input) : Except Failure (List Row) := do
  t.sorted.forM fun e => do let _ ← e.2.description
  return rows t

def line (e : Path × Input) : String :=
  e.1.text ++ " " ++ e.2.source?.getD "" ++ "\n"

/-- The text form. -/
def text (t : Table Path Input) : String := String.join (t.sorted.map line)

/-- One row as an indented JSON object. -/
def Row.json (r : Row) : String :=
  let field (key value : String) := "    " ++ Text.jsonString true key ++ ": " ++ value
  let source := (r.source.map (Text.jsonString true)).getD "null"
  "  \x7b\n" ++
    ",\n".intercalate [field "path" (Text.jsonString true r.path),
      field "kind" (Text.jsonString true r.kind), field "source" source] ++
    "\n  \x7d"

/-- The rows as an indented JSON array in ASCII, without a line end. -/
def json (rows : List Row) : String :=
  if rows.isEmpty then "[]"
  else "[\n" ++ ",\n".intercalate (rows.map Row.json) ++ "\n]"

end Listing

end InputStaging
