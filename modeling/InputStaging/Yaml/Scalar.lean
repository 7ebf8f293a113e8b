import InputStaging.Yaml.Cursor

/-!
# Scalars of a YAML text

The text of a scalar in each of its styles: plain, in single or double quotes, and as a
block. Line ends within a scalar are folded: one stands for a space, and of several the
first is dropped. Loops hand on what they have read so far with the last character first.
-/

namespace InputStaging.Yaml

open Cursor

/-- Line ends folded into what they stand for. -/
def fold (first : Char) (more : List Char) : List Char :=
  if first ≠ '\n' then first :: more else if more = [] then [' '] else more

/-! ## Plain -/

def isFlowIndicator (c : Char) : Bool :=
  c = ',' || c = '[' || c = ']' || c = '\x7b' || c = '\x7d'

/-- A plain scalar does not go on with this character. -/
def stopsPlain (flow : Bool) (c : Char) (rest : List Char) : Bool :=
  endsIndicator (some c) ||
    (c = ':' && (endsIndicator rest.head? || (flow && rest.head?.any isFlowIndicator))) ||
    (flow && (c = '?' || isFlowIndicator c))

def plainWordFrom (flow : Bool) (read : List Char) : List Char → List Char
  | [] => read.reverse
  | c :: rest => if stopsPlain flow c rest then read.reverse else plainWordFrom flow (c :: read) rest

/-- The next word of a plain scalar. -/
def plainWord (flow : Bool) (cs : List Char) : List Char := plainWordFrom flow [] cs

/-- Line ends and spaces within a plain scalar. Nothing is handed back if they lead to a
mark between documents. -/
def plainBreaks : Nat → List Char → Cursor → Option (List Char) × Cursor
  | 0, read, c => (some read.reverse, c)
  | fuel + 1, read, c =>
    if c.peek = some ' ' then plainBreaks fuel read c.next
    else
      match c.lineBreak? with
      | none => (some read.reverse, c)
      | some (ch, c) => if c.atSeparator then (none, c) else plainBreaks fuel (ch :: read) c

/-- What separates two words of a plain scalar, and whether a line ends there. Nothing
separates them if the scalar ends. -/
def plainSpaces (c : Cursor) : List Char × Bool × Cursor :=
  let (spaces, c) := c.span (· = ' ')
  match c.lineBreak? with
  | none => (spaces, false, c)
  | some (first, c) =>
    if c.atSeparator then ([], true, c)
    else
      match plainBreaks c.fuel [] c with
      | (none, c) => ([], true, c)
      | (some more, c) => (fold first more, true, c)

/-- The words of a plain scalar from a position on. Outside flow collections a line has
to be indented to go on with the scalar. -/
def plainWords (flow : Bool) (indent : Int) :
    Nat → List Char → Cursor → List Char × Bool × Cursor
  | 0, read, c => (read.reverse, false, c)
  | fuel + 1, read, c =>
    let word := plainWord flow c.rest
    let read := word.reverseAux read
    let (spaces, crossed, after) := plainSpaces (c.skip word.length)
    if spaces = [] ∨ after.peek = some '#' ∨ (!flow ∧ (after.column : Int) < indent) ∨
        plainWord flow after.rest = [] then
      (read.reverse, crossed, after)
    else plainWords flow indent fuel (spaces.reverseAux read) after

/-- A plain scalar, and whether a line ends behind it. -/
def plain (flow : Bool) (indent : Int) (c : Cursor) : List Char × Bool × Cursor :=
  plainWords flow indent c.fuel [] c

/-! ## Quotes -/

/-- Line ends within quotes, with the blank space after each. -/
def quotedBreaks : Nat → List Char → Cursor → Except Fault (List Char × Cursor)
  | 0, read, c => .ok (read.reverse, c)
  | fuel + 1, read, c =>
    if c.atSeparator then .error (.malformed .unterminatedQuotes)
    else
      let c := (c.span isSpaceOrTab).2
      match c.lineBreak? with
      | none => .ok (read.reverse, c)
      | some (ch, c) => quotedBreaks fuel (ch :: read) c

def escapes : List (Char × Char) :=
  [('0', '\x00'), ('a', '\x07'), ('b', '\x08'), ('t', '\t'), ('\t', '\t'), ('n', '\n'),
   ('v', '\x0b'), ('f', '\x0c'), ('r', '\r'), ('e', '\x1b'), (' ', ' '), ('"', '"'),
   ('\\', '\\'), ('/', '/'), ('N', '\u0085'), ('_', '\u00a0'), ('L', '\u2028'),
   ('P', '\u2029')]

/-- Escapes that are followed by so many hexadecimal digits. -/
def numericEscapes : List (Char × Nat) := [('x', 2), ('u', 4), ('U', 8)]

/-- What stands for the character with a number. -/
def ofCode (n : Nat) : Except Fault (List Char) :=
  if 0x7FFFFFFF < n then .error (.scalar .codePointSize)
  else if Text.lastCodePoint < n then .error (.scalar .codePoint)
  else .ok (Text.writing n)

/-- The number that exactly `n` hexadecimal digits write. -/
def hexNumber? (n : Nat) (cs : List Char) : Option Nat :=
  let ds := (cs.take n).takeWhile fun c => (Number.digitIn? 16 c).isSome
  if ds.length = n then some (Number.ofDigits 16 ds) else none

/-- What an escape stands for; the position is behind the backslash. -/
def escape (c : Cursor) : Except Fault (List Char × Cursor) :=
  match c.peek with
  | none => .error (.malformed .badEscape)
  | some ch =>
    match escapes.lookup ch, numericEscapes.lookup ch with
    | some r, _ => .ok ([r], c.next)
    | none, some n =>
      match hexNumber? n c.next.rest with
      | none => .error (.malformed .badEscape)
      | some code => do return (← ofCode code, c.next.skip n)
    | none, none =>
      match c.lineBreak? with
      | none => .error (.malformed .badEscape)
      | some (_, c) => quotedBreaks c.fuel [] c

/-- Blank space within quotes. -/
def quotedSpaces (c : Cursor) : Except Fault (List Char × Cursor) :=
  let (spaces, c) := c.span isSpaceOrTab
  match c.lineBreak? with
  | none => .ok (spaces, c)
  | some (first, c) => do
    let (more, c) ← quotedBreaks c.fuel [] c
    return (fold first more, c)

/-- The rest of a quoted scalar, up to and with the closing quote. Within single quotes
only the quote itself is special, and is written twice. -/
def quotedRest (quote : Char) : Nat → List Char → Cursor → Except Fault (List Char × Cursor)
  | 0, _, _ => .error (.malformed .unterminatedQuotes)
  | fuel + 1, read, c =>
    match c.peek with
    | none => .error (.malformed .unterminatedQuotes)
    | some ch =>
      if ch = quote then
        if quote = '\'' ∧ c.peek 1 = some '\'' then quotedRest quote fuel ('\'' :: read) (c.skip 2)
        else .ok (read.reverse, c.next)
      else if ch = '\\' ∧ quote = '"' then
        match escape c.next with
        | .error f => .error f
        | .ok (cs, c) => quotedRest quote fuel (cs.reverseAux read) c
      else if endsIndicator (some ch) then
        match quotedSpaces c with
        | .error f => .error f
        | .ok (cs, c) => quotedRest quote fuel (cs.reverseAux read) c
      else quotedRest quote fuel (ch :: read) c.next

/-- A quoted scalar; the position is at the opening quote. -/
def quoted (c : Cursor) : Except Fault (List Char × Cursor) :=
  quotedRest (c.peek.getD '"') c.fuel [] c.next

/-! ## Blocks -/

/-- What becomes of the line ends after the last line of a block. -/
inductive Chomping where
  | strip
  | clip
  | keep
  deriving DecidableEq, Repr

def chomping? : Option Char → Option Chomping
  | some '+' => some .keep
  | some '-' => some .strip
  | _ => none

/-- An indentation indicator: a digit other than zero. -/
def indentation (c : Cursor) : Except Fault (Option Nat × Cursor) :=
  match c.peek with
  | some ch =>
    if ch = '0' then .error (.malformed .badBlockHeader)
    else if ch.isDigit then .ok (some (ch.toNat - '0'.toNat), c.next)
    else .ok (none, c)
  | none => .ok (none, c)

/-- The two indicators of a block, in either order. -/
def blockIndicators (c : Cursor) : Except Fault (Chomping × Option Nat × Cursor) := do
  let (chomp, increment, c) ← match chomping? c.peek with
    | some k => do
      let (n, c) ← indentation c.next
      pure (k, n, c)
    | none => do
      let (n, c) ← indentation c
      match n, chomping? c.peek with
      | some _, some k => pure (k, n, c.next)
      | _, _ => pure (Chomping.clip, n, c)
  unless endsWord c.peek do throw (.malformed .badBlockHeader)
  return (chomp, increment, c)

/-- The rest of the header line, on which only a comment may stand. -/
def headerEnd (c : Cursor) : Except Fault Cursor :=
  let c := c.skipComment
  match c.peek, c.lineBreak? with
  | none, _ => .ok c
  | some _, some (_, c) => .ok c
  | some _, none => .error (.malformed .badBlockHeader)

/-- Blank lines before a block of unknown indentation, and the largest column that their
spaces reach. -/
def leadingBreaks : Nat → List Char → Nat → Cursor → List Char × Nat × Cursor
  | 0, read, widest, c => (read.reverse, widest, c)
  | fuel + 1, read, widest, c =>
    if c.peek = some ' ' then leadingBreaks fuel read (max c.next.column widest) c.next
    else
      match c.lineBreak? with
      | none => (read.reverse, widest, c)
      | some (ch, c) => leadingBreaks fuel (ch :: read) widest c

/-- Spaces up to a column. -/
def indentTo (indent : Nat) : Nat → Cursor → Cursor
  | 0, c => c
  | fuel + 1, c =>
    if c.column < indent ∧ c.peek = some ' ' then indentTo indent fuel c.next else c

/-- Blank lines within a block. -/
def blockBreaks (indent : Nat) : Nat → List Char → Cursor → List Char × Cursor
  | 0, read, c => (read.reverse, c)
  | fuel + 1, read, c =>
    let c := indentTo indent indent c
    match c.lineBreak? with
    | none => (read.reverse, c)
    | some (ch, c) => blockBreaks indent fuel (ch :: read) c

/-- The lines of a block, after blank lines that stand for `breaks`. Between two lines of
a folded block that both start at the indentation, the line end is folded. -/
def blockLines (folded : Bool) (chomp : Chomping) (indent : Nat) :
    Nat → List Char → List Char → List Char → Cursor → List Char × Cursor
  | 0, read, _, _, c => (read.reverse, c)
  | fuel + 1, read, lineEnd, breaks, c =>
    if c.column ≠ indent ∨ c.peek = none then
      let tail := match chomp with
        | .strip => []
        | .clip => lineEnd
        | .keep => lineEnd ++ breaks
      ((tail.reverseAux read).reverse, c)
    else
      let (line, after) := c.span (!isBreak ·)
      let (lineEnd, after) := match after.lineBreak? with
        | some (ch, after) => ([ch], after)
        | none => ([], after)
      let (more, next) := blockBreaks indent after.fuel [] after
      let goesOn := next.column = indent ∧ next.peek ≠ none
      let isFolded := folded ∧ lineEnd = ['\n'] ∧ !c.peek.any isSpaceOrTab ∧
        !next.peek.any isSpaceOrTab
      let joint := if !goesOn then [] else if !isFolded then lineEnd
        else if more = [] then [' '] else []
      let read := joint.reverseAux (line.reverseAux (breaks.reverseAux read))
      blockLines folded chomp indent fuel read lineEnd more next

/-- A block scalar in a block of the given indentation; the position is at its
indicator. -/
def block (parent : Int) (c : Cursor) : Except Fault (List Char × Cursor) := do
  let folded := c.peek = some '>'
  let (chomp, increment, c) ← blockIndicators c.next
  let c ← headerEnd c
  let least := (parent + 1).toNat.max 1
  let (indent, breaks, c) := match increment with
    | none =>
      let (breaks, widest, c) := leadingBreaks c.fuel [] 0 c
      (max least widest, breaks, c)
    | some n =>
      let indent := least + n - 1
      let (breaks, c) := blockBreaks indent c.fuel [] c
      (indent, breaks, c)
  return blockLines folded chomp indent c.fuel [] [] breaks c

end InputStaging.Yaml
