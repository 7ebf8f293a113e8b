import InputStaging.Log.Record
import InputStaging.Text.Casing

/-!
# The console log

Where records of this program go: to handlers, of which at most one is the console's
own and writes to standard error. Handlers put there by others are left alone.
-/

namespace InputStaging

inductive Handler where
  | foreign
  | console (form : LogForm)
  deriving DecidableEq, Repr

/-- The logger to which the handlers belong, and its descendants with it. -/
def Console.logger : String := "spawn_inputs"

structure Console where
  level : Level := .unset
  handlers : List Handler := []
  /-- The loggers that there are. -/
  loggers : List String := [Console.logger]
  deriving DecidableEq, Repr

namespace Console

/-- The ancestors of a name, which is read, as they are, from its end. An ancestor ends
before a point; the character before that point is not taken for the end of another. -/
def ancestors : List Char → List (List Char)
  | c :: d :: rest => if c = '.' then (d :: rest) :: ancestors rest else ancestors (d :: rest)
  | _ => []

/-- A name, read from its end, is that of the logger, or of a descendant. The parent is the
nearest ancestor that there is. -/
def reachesLogger (loggers : List String) : Nat → List Char → Bool
  | 0, _ => false
  | fuel + 1, name =>
    name = logger.toList.reverse ||
      match (ancestors name).find? fun a => String.ofList a.reverse ∈ loggers with
      | some parent => reachesLogger loggers fuel parent
      | none => false

/-- What is told to this logger comes to the handlers. -/
def isBelow (c : Console) (name : String) : Bool :=
  reachesLogger c.loggers (name.length + 1) name.toList.reverse

/-- A logger comes into being when it is first asked for. -/
def withLogger (c : Console) (name : String) : Console :=
  if name ∈ c.loggers then c else { c with loggers := c.loggers ++ [name] }

def isForeign : Handler → Bool
  | .foreign => true
  | .console _ => false

/-- Replace the console's own handler by one of the given form. -/
def attach (c : Console) (form : LogForm) : Console :=
  { c with handlers := c.handlers.filter isForeign ++ [.console form] }

/-- Attach a handler and set the level, which is given by name in any case. A name that
is not known leaves the level as it was, and is handed back in upper case. The handler is
attached all the same. -/
def configure (c : Console) (level : String) (form : LogForm) : Console × Except String Unit :=
  let c := c.attach form
  let name := String.ofList (Text.upper level.toList)
  match Level.ofName? name with
  | some level => ({ c with level }, .ok ())
  | none => (c, .error name)

/-- What is said of a level that is not known. -/
def unknownLevel (name : String) : String := s!"Unknown level: {Text.quoted name}"

/-- A level that is not set is that of the root. -/
def threshold (c : Console) : Nat :=
  if c.level = .unset then Level.warning.severity else c.level.severity

def accepts (c : Console) (r : Record) : Bool :=
  c.isBelow r.logger && c.threshold ≤ r.level.severity

/-- What the console writes for a record. -/
def lines (c : Console) (r : Record) : List String :=
  if c.accepts r then
    c.handlers.filterMap fun
      | .console form => some (r.text form ++ "\n")
      | .foreign => none
  else []

def write (c : Console) (rs : List Record) : String := String.join (rs.flatMap c.lines)

end Console

end InputStaging
