import InputStaging.Yaml.Fault

/-!
# Positions in a YAML text

A cursor is what is left of the text, together with the line and the column that have
been reached. A byte order mark takes up no column.
-/

namespace InputStaging.Yaml

/-- A character that ends a line. -/
def isBreak (c : Char) : Bool :=
  c = '\n' || c = '\r' || c = '\u0085' || c = '\u2028' || c = '\u2029'

def isSpaceOrTab (c : Char) : Bool := c = ' ' || c = '\t'

/-- The characters that a text may hold. -/
def isPrintable (c : Char) : Bool :=
  let n := c.toNat
  n = 0x09 || n = 0x0A || n = 0x0D || (0x20 ≤ n && n ≤ 0x7E) || n = 0x85 ||
    (0xA0 ≤ n && n ≤ 0xFFFD) || 0x10000 ≤ n

/-- What stands after an indicator: blank space, a line end, or nothing more. -/
def endsIndicator : Option Char → Bool
  | none => true
  | some c => isSpaceOrTab c || isBreak c

/-- As `endsIndicator`, but a tab does not count. -/
def endsWord : Option Char → Bool
  | none => true
  | some c => c = ' ' || isBreak c

/-- Letters, digits, hyphens and underscores make up names. -/
def isNameChar (c : Char) : Bool := c.isAlphanum || c = '-' || c = '_'

structure Cursor where
  rest : List Char
  /-- At least the number of characters that are left. -/
  bound : Nat := rest.length
  index : Nat := 0
  line : Nat := 0
  column : Nat := 0
  deriving DecidableEq, Repr

namespace Cursor

def peek (c : Cursor) (n : Nat := 0) : Option Char := (c.rest.drop n).head?

/-- One character further. -/
def next (c : Cursor) : Cursor :=
  match c.rest with
  | [] => c
  | ch :: rest =>
    if isBreak ch && !(ch = '\r' && rest.head? = some '\n') then
      { rest, bound := c.bound, index := c.index + 1, line := c.line + 1, column := 0 }
    else
      { rest, bound := c.bound, index := c.index + 1, line := c.line,
        column := if ch = '\ufeff' then c.column else c.column + 1 }

/-- Enough for any walk over what is left. -/
def fuel (c : Cursor) : Nat := c.bound + 1

/-- So many characters further. -/
def skip (c : Cursor) : Nat → Cursor
  | 0 => c
  | n + 1 => c.next.skip n

/-- The characters of a class that stand next, and the position after them. -/
def span (c : Cursor) (p : Char → Bool) : List Char × Cursor :=
  let cs := c.rest.takeWhile p
  (cs, c.skip cs.length)

/-- Pass over a line end; the character that a text gets for it. -/
def lineBreak? (c : Cursor) : Option (Char × Cursor) :=
  match c.rest with
  | '\r' :: '\n' :: _ => some ('\n', c.skip 2)
  | ch :: _ =>
    if ch = '\u2028' || ch = '\u2029' then some (ch, c.next)
    else if isBreak ch then some ('\n', c.next)
    else none
  | [] => none

/-- One of the marks between documents stands here, on its own. -/
def atMark (c : Cursor) (mark : String) : Bool :=
  mark.toList.isPrefixOf c.rest && endsIndicator (c.peek 3)

/-- Either mark. -/
def atSeparator (c : Cursor) : Bool := c.atMark "---" || c.atMark "..."

/-- Pass over spaces and a comment. -/
def skipComment (c : Cursor) : Cursor :=
  let c := (c.span (· = ' ')).2
  if c.peek = some '#' then (c.span (!isBreak ·)).2 else c

end Cursor

end InputStaging.Yaml
