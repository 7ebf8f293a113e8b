import InputStaging.Yaml.Scalar

/-!
# Tokens of a YAML text

Tokens say where nodes begin and end, so that indentation plays no role afterwards. That
something is the key of a mapping is often known only when the colon behind it is
reached; then the key's token is put in front of what was read since. Until then, the
tokens from the possible key on are not known for certain: if the reading is stopped by a
fault, they are lost.
-/

namespace InputStaging.Yaml

inductive Directive where
  | version (major : Int)
  | tag (handle value : String)
  | other
  deriving DecidableEq, Repr

inductive Token where
  | directive (d : Directive)
  | documentStart
  | documentEnd
  | sequenceStart
  | mappingStart
  | blockEnd
  | flowSequenceStart
  | flowSequenceEnd
  | flowMappingStart
  | flowMappingEnd
  | blockEntry
  | flowEntry
  | key
  | value
  | alias (name : String)
  | anchor (name : String)
  | tag (handle : Option String) (suffix : String)
  | scalar (text : String) (isPlain : Bool)
  | streamEnd
  deriving DecidableEq, Repr

/-- A place where a key may turn out to begin. -/
structure PendingKey where
  /-- The flow collections that are open. -/
  depth : Nat
  /-- How many tokens come before the key. -/
  position : Nat
  index : Nat
  line : Nat
  column : Nat
  /-- Nothing but a key can stand here. -/
  required : Bool

structure Lexer where
  cursor : Cursor
  /-- What has been read, the last token first. -/
  tokens : List Token := []
  count : Nat := 0
  depth : Nat := 0
  /-- The column of the innermost block; outside all blocks it is -1. -/
  indent : Int := -1
  outer : List Int := []
  keyAllowed : Bool := true
  pending : List PendingKey := []

abbrev Lex := StateT Lexer (Except Fault)

namespace Lex

def refuse {α : Type} (m : Malformation) : Lex α := throw (.malformed m)

def cursor : Lex Cursor := do return (← get).cursor

def moveTo (c : Cursor) : Lex Unit := modify fun l => { l with cursor := c }

/-- Add tokens, the last of them first. -/
def emitAll (ts : List Token) : Lex Unit :=
  modify fun l => { l with tokens := ts ++ l.tokens, count := l.count + ts.length }

def emit (t : Token) : Lex Unit := emitAll [t]

def allowKey (b : Bool) : Lex Unit := modify fun l => { l with keyAllowed := b }

/-- Read with a function on cursors. -/
def reading {α : Type} (f : Cursor → Except Fault (α × Cursor)) : Lex α := do
  let (a, c) ← f (← cursor)
  moveTo c
  return a

def isFlow : Lex Bool := do return (← get).depth ≠ 0

/-! ## Keys -/

/-- A key ends on its line, and within 1024 characters. -/
def isStale (c : Cursor) (k : PendingKey) : Bool := k.line ≠ c.line || c.index - k.index > 1024

def dropKeys (p : PendingKey → Bool) : Lex Unit := do
  let l ← get
  if l.pending.any fun k => p k && k.required then refuse .unfinishedKey
  set { l with pending := l.pending.filter fun k => !p k }

def dropStaleKeys : Lex Unit := do
  let c ← cursor
  dropKeys (isStale c)

/-- Give up the pending key of the current collection. -/
def dropKey : Lex Unit := do
  let depth := (← get).depth
  dropKeys (·.depth = depth)

/-- What comes next may be a key. -/
def expectKey : Lex Unit := do
  let l ← get
  if l.keyAllowed then
    dropKey
    let c := l.cursor
    let k : PendingKey := {
      depth := l.depth, position := l.count, index := c.index, line := c.line,
      column := c.column, required := l.depth = 0 && l.indent = c.column }
    modify fun l => { l with pending := k :: l.pending }

/-! ## Blocks -/

/-- Enter a block at a column, if it is further in than the current one. -/
def enterBlock (column : Nat) : Lex Bool := do
  let l ← get
  if l.indent < column then
    set { l with indent := column, outer := l.indent :: l.outer }
    return true
  return false

/-- How many blocks end at a column, and the indentation they leave. -/
def closing (column : Int) (ended : Nat) : Int → List Int → Nat × Int × List Int
  | indent, [] => (ended, indent, [])
  | indent, o :: outer =>
    if column < indent then closing column (ended + 1) o outer else (ended, indent, o :: outer)

/-- Leave the blocks that are further in than a column. -/
def leaveBlocks (column : Int) : Lex Unit := do
  let l ← get
  if l.depth = 0 then
    let (ended, indent, outer) := closing column 0 l.indent l.outer
    set { l with indent, outer }
    emitAll (List.replicate ended .blockEnd)

/-! ## Between tokens -/

def skipBlank : Nat → Lex Unit
  | 0 => return
  | fuel + 1 => do
    moveTo (← cursor).skipComment
    match (← cursor).lineBreak? with
    | none => return
    | some (_, c) =>
      moveTo c
      unless ← isFlow do allowKey true
      skipBlank fuel

/-! ## Names, tags and directives -/

def name (c : Cursor) : Except Fault (String × Cursor) :=
  let (cs, c) := c.span isNameChar
  if cs = [] then .error (.malformed .badName) else .ok (String.ofList cs, c)

/-- What may stand right behind the name of an anchor or an alias. -/
def endsAnchor (o : Option Char) : Bool :=
  endsIndicator o || o.any fun c => "?:,]\x7d%@\x60".toList.contains c

def anchorName : Lex String := do
  moveTo (← cursor).next
  let n ← reading name
  unless endsAnchor (← cursor).peek do refuse .badName
  return n

def isUriChar (c : Char) : Bool :=
  c.isAlphanum || "-;/?:@&=+$,_.!~*'()[]".toList.contains c

/-- Bytes that are written with percent signs. -/
def escapedBytes : Nat → List UInt8 → Cursor → Except Fault (List UInt8 × Cursor)
  | 0, read, c => .ok (read.reverse, c)
  | fuel + 1, read, c =>
    if c.peek = some '%' then
      match hexNumber? 2 c.next.rest with
      | none => .error (.malformed .badTag)
      | some n => escapedBytes fuel (UInt8.ofNat n :: read) (c.skip 3)
    else .ok (read.reverse, c)

def uriChars : Nat → String → Cursor → Except Fault (String × Cursor)
  | 0, read, c => .ok (read, c)
  | fuel + 1, read, c => do
    let (cs, c) := c.span isUriChar
    let (bytes, c) ← escapedBytes c.fuel [] c
    let some escaped := String.fromUTF8? ⟨bytes.toArray⟩ | throw (.malformed .badTag)
    if cs = [] ∧ bytes = [] then return (read, c)
    uriChars fuel (read ++ String.ofList cs ++ escaped) c

/-- The part of a tag that may be any address; it is not empty. -/
def uri (c : Cursor) : Except Fault (String × Cursor) := do
  let (s, after) ← uriChars c.fuel "" c
  if after.index = c.index then throw (.malformed .badTag)
  return (s, after)

/-- A tag's handle: one exclamation mark, or a name between two. -/
def handle (c : Cursor) : Except Fault (String × Cursor) :=
  if c.peek ≠ some '!' then .error (.malformed .badTag)
  else if c.peek 1 = some ' ' then .ok ("!", c.next)
  else
    let (cs, after) := c.next.span isNameChar
    if after.peek = some '!' then .ok (String.ofList ('!' :: cs ++ ['!']), after.next)
    else .error (.malformed .badTag)

/-- The word at the cursor has a second exclamation mark. -/
def hasHandle (c : Cursor) : Bool :=
  (c.next.rest.takeWhile fun ch => !endsWord (some ch)).contains '!'

def tagToken (c : Cursor) : Except Fault (Token × Cursor) := do
  let (t, c) ←
    if c.peek 1 = some '<' then do
      let (suffix, c) ← uri (c.skip 2)
      if c.peek ≠ some '>' then throw (.malformed .badTag)
      pure (Token.tag none suffix, c.next)
    else if endsIndicator (c.peek 1) then pure (Token.tag none "!", c.next)
    else do
      let (h, c) ← if hasHandle c then handle c else pure ("!", c.next)
      let (suffix, c) ← uri c
      pure (Token.tag (some h) suffix, c)
  unless endsWord c.peek do throw (.malformed .badTag)
  return (t, c)

/-- One of the numbers of a version. What stands behind it is looked at before it is read. -/
def versionNumber (c : Cursor) : Except Fault (Int × Cursor) :=
  let (cs, c) := c.span Char.isDigit
  if cs = [] ∨ c.peek.any (!isPrintable ·) then .error (.malformed .badDirective)
  else ((Number.readInt 10 cs).mapError fun f => .scalar (.number f)).map fun n => (n, c)

def skipSpaces (c : Cursor) : Cursor := (c.span (· = ' ')).2

def versionDirective (c : Cursor) : Except Fault (Directive × Cursor) := do
  let (major, c) ← versionNumber (skipSpaces c)
  if c.peek ≠ some '.' then throw (.malformed .badDirective)
  let (_, c) ← versionNumber c.next
  unless endsWord c.peek do throw (.malformed .badDirective)
  return (.version major, c)

def tagDirective (c : Cursor) : Except Fault (Directive × Cursor) := do
  let (h, c) ← handle (skipSpaces c)
  if c.peek ≠ some ' ' then throw (.malformed .badDirective)
  let (value, c) ← uri (skipSpaces c)
  unless endsWord c.peek do throw (.malformed .badDirective)
  return (.tag h value, c)

def directive (c : Cursor) : Except Fault (Directive × Cursor) := do
  let (n, c) ← name c.next
  unless endsWord c.peek do throw (.malformed .badDirective)
  let (d, c) ←
    if n = "YAML" then versionDirective c
    else if n = "TAG" then tagDirective c
    else pure (Directive.other, (c.span (!isBreak ·)).2)
  let c := c.skipComment
  match c.peek, c.lineBreak? with
  | none, _ => return (d, c)
  | some _, some (_, c) => return (d, c)
  | some _, none => throw (.malformed .badDirective)

/-! ## Tokens -/

/-- Nothing can turn out to be a key any more. -/
def lexStreamEnd : Lex Unit := do
  leaveBlocks (-1)
  dropKey
  modify fun l => { l with pending := [] }
  emit .streamEnd

def lexDirective : Lex Unit := do
  leaveBlocks (-1)
  dropKey
  allowKey false
  emit (.directive (← reading directive))

/-- A mark between documents. -/
def lexMark (t : Token) : Lex Unit := do
  leaveBlocks (-1)
  dropKey
  allowKey false
  moveTo ((← cursor).skip 3)
  emit t

def openFlow (t : Token) : Lex Unit := do
  expectKey
  modify fun l => { l with depth := l.depth + 1 }
  allowKey true
  moveTo (← cursor).next
  emit t

/-- Nothing can be closed where nothing is open. -/
def closeFlow (t : Token) (ch : Char) : Lex Unit := do
  dropKey
  unless ← isFlow do refuse (.strayCharacter ch)
  modify fun l => { l with depth := l.depth - 1 }
  allowKey false
  moveTo (← cursor).next
  emit t

def lexFlowEntry : Lex Unit := do
  allowKey true
  dropKey
  moveTo (← cursor).next
  emit .flowEntry

/-- Begin a block here, unless it has begun. Within flow collections there are none. -/
def beginBlock (what : String) (start : Token) : Lex Unit := do
  unless ← isFlow do
    unless (← get).keyAllowed do refuse (.misplaced what)
    if ← enterBlock (← cursor).column then emit start

def lexBlockEntry : Lex Unit := do
  beginBlock "sequence entries" .sequenceStart
  allowKey true
  dropKey
  moveTo (← cursor).next
  emit .blockEntry

def lexKey : Lex Unit := do
  beginBlock "mapping keys" .mappingStart
  allowKey !(← isFlow)
  dropKey
  moveTo (← cursor).next
  emit .key

/-- Put a key's token in front of what was read since the key began, and the start of a
block before it if the key begins one. -/
def resolveKey (k : PendingKey) : Lex Unit := do
  let begins ← if ← isFlow then pure false else enterBlock k.column
  let front : List Token := if begins then [.key, .mappingStart] else [.key]
  modify fun l =>
    let since := l.count - k.position
    { l with
      tokens := l.tokens.take since ++ front ++ l.tokens.drop since
      count := l.count + front.length
      pending := l.pending.filter fun k' => k'.depth ≠ k.depth
      keyAllowed := false }

def lexValue : Lex Unit := do
  let l ← get
  match l.pending.find? (·.depth = l.depth) with
  | some k => resolveKey k
  | none =>
    beginBlock "mapping values" .mappingStart
    allowKey !(← isFlow)
    dropKey
  moveTo (← cursor).next
  emit .value

/-- A token that may begin a key, but not be followed by another. -/
def lexWithin (read : Lex Token) : Lex Unit := do
  expectKey
  allowKey false
  emit (← read)

def lexBlockScalar : Lex Unit := do
  allowKey true
  dropKey
  let parent := (← get).indent
  let cs ← reading (block parent)
  emit (.scalar (String.ofList cs) false)

def lexQuoted : Lex Unit := lexWithin do
  return .scalar (String.ofList (← reading quoted)) false

def lexPlain : Lex Unit := lexWithin do
  let l ← get
  let (cs, crossed, c) := plain (l.depth ≠ 0) (l.indent + 1) l.cursor
  moveTo c
  if crossed then allowKey true
  return .scalar (String.ofList cs) true

/-- A plain scalar can begin here. -/
def startsPlain (flow : Bool) (ch : Char) (after : Option Char) : Bool :=
  if "-?:".toList.contains ch then !endsIndicator after && (ch = '-' || !flow)
  else !endsIndicator (some ch) && !",[]\x7b\x7d#&*!|>'\"%@\x60".toList.contains ch

/-- The next token. -/
def lexToken (ch : Char) : Lex Unit := do
  let c ← cursor
  let flow ← isFlow
  let alone := endsIndicator (c.peek 1)
  if ch = '%' ∧ c.column = 0 then lexDirective
  else if c.column = 0 ∧ c.atMark "---" then lexMark .documentStart
  else if c.column = 0 ∧ c.atMark "..." then lexMark .documentEnd
  else if ch = '[' then openFlow .flowSequenceStart
  else if ch = '\x7b' then openFlow .flowMappingStart
  else if ch = ']' then closeFlow .flowSequenceEnd ch
  else if ch = '\x7d' then closeFlow .flowMappingEnd ch
  else if ch = ',' then lexFlowEntry
  else if ch = '-' ∧ alone then lexBlockEntry
  else if ch = '?' ∧ (flow ∨ alone) then lexKey
  else if ch = ':' ∧ (flow ∨ alone) then lexValue
  else if ch = '*' then lexWithin (do return .alias (← anchorName))
  else if ch = '&' then lexWithin (do return .anchor (← anchorName))
  else if ch = '!' then lexWithin (reading tagToken)
  else if (ch = '|' ∨ ch = '>') ∧ !flow then lexBlockScalar
  else if ch = '\'' ∨ ch = '"' then lexQuoted
  else if startsPlain flow ch (c.peek 1) then lexPlain
  else refuse (.strayCharacter ch)

/-- Read on; whether there is more to come. -/
def fetch : Lex Bool := do
  skipBlank (← cursor).fuel
  dropStaleKeys
  leaveBlocks (← cursor).column
  match (← cursor).peek with
  | none =>
    lexStreamEnd
    return false
  | some ch =>
    lexToken ch
    dropStaleKeys
    return true

end Lex

/-- The tokens of a text as far as they are known, and what stopped the reading. -/
structure Tokens where
  list : List Token
  fault : Option Fault := none

namespace Tokens

/-- The tokens that are certain: those before the first that may turn out to be a key. -/
def certain (l : Lexer) : List Token :=
  let known := l.pending.foldl (fun n k => min n k.position) l.count
  (l.tokens.drop (l.count - known)).reverse

/-- Read tokens up to the end of the text. -/
def fetchAll : Nat → Lexer → Tokens
  | 0, l => { list := certain l }
  | fuel + 1, l =>
    match Lex.fetch.run l with
    | .error f => { list := certain l, fault := some f }
    | .ok (true, l) => fetchAll fuel l
    | .ok (false, l) => { list := certain l }

/-- Read a text whose characters are all looked at. -/
def ofChars (cs : List Char) : Tokens :=
  let start : Cursor := { rest := cs }
  let start := if start.peek = some '\ufeff' then start.next else start
  fetchAll (cs.length + 1) { cursor := start }

/-- How many characters of a text are taken at first, and at a time after that. -/
def firstPiece : Nat := 8192

def nextPiece : Nat := 4096

/-- Where the piece begins to which the `n`-th character belongs. -/
def pieceStart (n : Nat) : Nat :=
  if n < firstPiece then 0 else n - (n - firstPiece) % nextPiece

/-- The tokens of a text. A character that no text may hold is noticed as soon as anything of
its piece is looked at. All that may come before is a scalar without a value. -/
def ofText (cs : List Char) : Tokens :=
  let fair := cs.takeWhile isPrintable
  match cs.drop fair.length with
  | [] => ofChars cs
  | c :: _ =>
    let before := ofChars (fair.take (pieceStart fair.length) ++ [c])
    match before.fault with
    | some (.scalar _) => before
    | _ => { list := [], fault := some (.malformed (.unprintable c)) }

end Tokens

end InputStaging.Yaml
