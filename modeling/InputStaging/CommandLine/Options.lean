import InputStaging.Input
import InputStaging.Text.Digit
import InputStaging.Text.Quoted

/-!
# Options of the command line

Words are first told apart, and then go to the options and to the one argument that is
required. An option may be cut short as long as no other begins the same way, and may
have its value behind an equals sign. After `--`, every word is an argument. Right behind an
equals sign these two dashes are no value either: the option is given then, without any.
-/

namespace InputStaging.CommandLine

/-- The options; those that turn something on or off take no value. -/
inductive Flag where
  | help
  | config
  | baseDirectory
  | execRoot
  | strict
  | lax
  | policy
  | format
  | logLevel
  | jsonLogs
  deriving DecidableEq, Repr

namespace Flag

/-- How options are written, in the order in which they are listed. -/
def spellings : List (String × Flag) :=
  [("-h", help), ("--help", help), ("--config", config), ("--base-dir", baseDirectory),
   ("--exec-root", execRoot), ("--strict", strict), ("--no-strict", lax),
   ("--policy", policy), ("--format", format), ("--log-level", logLevel),
   ("--json-logs", jsonLogs)]

def takesValue : Flag → Bool
  | config | baseDirectory | execRoot | policy | format | logLevel => true
  | help | strict | lax | jsonLogs => false

/-- How messages name the option, with all its spellings. -/
def name : Flag → String
  | strict | lax => "--strict/--no-strict"
  | f => "/".intercalate ((spellings.filter (·.2 = f)).map (·.1))

/-- The values among which one has to choose. -/
def choices? : Flag → Option (List String)
  | policy => some (EscapePolicy.known.map EscapePolicy.label)
  | format => some ["manifest", "json"]
  | _ => none

end Flag

/-- Why a command line is refused. -/
inductive Refusal where
  | ambiguous (word : String) (readings : List String)
  | valueMissing (f : Flag)
  | valueIgnored (f : Flag) (value : String)
  | notAmong (f : Flag) (value : String) (choices : List String)
  | spawnMissing
  | unrecognized (words : List String)
  deriving DecidableEq, Repr

def Refusal.message : Refusal → String
  | ambiguous word readings =>
    s!"ambiguous option: {word} could match " ++ ", ".intercalate readings
  | valueMissing f => s!"argument {f.name}: expected one argument"
  | valueIgnored f value =>
    s!"argument {f.name}: ignored explicit argument {Text.quoted value}"
  | notAmong f value choices =>
    s!"argument {f.name}: invalid choice: {Text.quoted value} (choose from "
      ++ ", ".intercalate (choices.map Text.quoted) ++ ")"
  | spawnMissing => "the following arguments are required: spawn"
  | unrecognized words => "unrecognized arguments: " ++ " ".intercalate words

/-! ## Words -/

inductive Word where
  | plain (s : String)
  | dashes
  | option (f : Flag) (value : Option String)
  /-- The one-letter option, with something right behind it, or behind an equals sign. -/
  | cluster (rest : List Char)
  | unknown (s : String)
  deriving DecidableEq, Repr

/-- Minus signs in front of a number do not make an option. The number may have the digits
of any script, and a line end behind it. -/
def isNegativeNumber (cs : List Char) : Bool :=
  let number := if cs.getLast? = some '\n' then cs.dropLast else cs
  match number with
  | '-' :: number =>
    let whole := number.takeWhile Text.isDigit
    match number.drop whole.length with
    | [] => whole ≠ []
    | '.' :: fraction => fraction ≠ [] && fraction.all Text.isDigit
    | _ => false
  | _ => false

/-- Split at the first equals sign. -/
def splitValue (cs : List Char) : List Char × Option (List Char) :=
  let front := cs.takeWhile (· ≠ '=')
  (front, if front.length < cs.length then some (cs.drop (front.length + 1)) else none)

/-- The options that a word cut short may stand for. -/
def readings (cs : List Char) : List (String × Flag) :=
  Flag.spellings.filter fun s => cs.isPrefixOf s.1.toList

def wordOf (s : String) : Except Refusal Word :=
  let cs := s.toList
  match cs with
  | '-' :: second :: tail =>
    let (front, value) := splitValue cs
    let value := value.map String.ofList
    match Flag.spellings.lookup s, Flag.spellings.lookup (String.ofList front) with
    | some f, _ => .ok (.option f none)
    | none, some f =>
      if second = '-' then .ok (.option f value) else .ok (.cluster ((value.getD "").toList))
    | none, none =>
      if second = 'h' then .ok (.cluster tail)
      else
        match if second = '-' then readings front else readings cs with
        | [(_, f)] => .ok (.option f value)
        | first :: others => .error (.ambiguous s ((first :: others).map (·.1)))
        | [] =>
          if isNegativeNumber cs || cs.contains ' ' then .ok (.plain s) else .ok (.unknown s)
  | _ => .ok (.plain s)

/-- Tell words apart, up to two dashes on their own. -/
def wordsOf : List String → Except Refusal (List Word)
  | [] => .ok []
  | s :: rest =>
    if s = "--" then .ok (.dashes :: rest.map .plain)
    else do return (← wordOf s) :: (← wordsOf rest)

/-! ## Options -/

structure Options where
  spawn : String
  config : Option String := none
  /-- Nothing if the option is given without a value. -/
  baseDirectory : Option String := some ""
  execRoot : Option String := none
  strict : Option Bool := none
  policy : Option { p : EscapePolicy // p ∈ EscapePolicy.known } := none
  json : Bool := false
  /-- Nothing if the option is given without a value. -/
  logLevel : Option String := some "WARNING"
  jsonLogs : Bool := false
  deriving DecidableEq

/-- What has been read of a command line. -/
structure Draft where
  spawn : Option String := none
  options : Options := { spawn := "" }
  surplus : List String := []

/-- The value that is written behind an equals sign, if any is left of it. -/
def behindEquals (value : String) : Option String := if value = "--" then none else some value

/-- A value is none of those among which one has to choose. -/
def Flag.refuses (f : Flag) (value : Option String) : Option Refusal := do
  let v ← value
  let choices ← f.choices?
  if v ∈ choices then none else some (.notAmong f v choices)

/-- Set the value of an option. Without a value, a file or a directory that is looked up has
the empty name, and what was chosen before is forgotten. -/
def Options.set (o : Options) (f : Flag) (value : Option String) : Except Refusal Options :=
  match f.refuses value with
  | some r => .error r
  | none =>
    .ok (match f with
      | .config => { o with config := some (value.getD "") }
      | .baseDirectory => { o with baseDirectory := value }
      | .execRoot => { o with execRoot := some (value.getD "") }
      | .policy => { o with policy := value.bind EscapePolicy.known? }
      | .format => { o with json := value = some "json" }
      | .logLevel => { o with logLevel := value }
      | _ => o)

/-- Turn something on or off. -/
def Options.switch (o : Options) : Flag → Options
  | .strict => { o with strict := some true }
  | .lax => { o with strict := some false }
  | .jsonLogs => { o with jsonLogs := true }
  | _ => o

/-- What follows the one-letter option, which takes no value: the option itself may follow,
any number of times. -/
def refuseCluster : List Char → Option Refusal
  | ['h'] => none
  | 'h' :: rest => refuseCluster rest
  | rest => some (.valueIgnored .help (String.ofList rest))

/-- Read words in their order. Nothing is handed back if help is asked for. -/
def read (d : Draft) : List Word → Except Refusal (Option Draft)
  | [] => .ok (some d)
  | .unknown s :: rest => read { d with surplus := d.surplus ++ [s] } rest
  | .cluster cs :: _ =>
    match refuseCluster cs with
    | some r => .error r
    | none => .ok none
  | .option f (some value) :: rest => do
    if !f.takesValue then throw (.valueIgnored f value)
    read { d with options := ← d.options.set f (behindEquals value) } rest
  | .option f none :: rest =>
    if f = .help then .ok none
    else if f.takesValue then
      match rest with
      | .plain s :: rest => do read { d with options := ← d.options.set f (some s) } rest
      | _ => .error (.valueMissing f)
    else read { d with options := d.options.switch f } rest
  | .dashes :: rest =>
    match d.spawn, rest with
    | none, .plain s :: rest => read { d with spawn := some s } rest
    | _, rest => read { d with surplus := d.surplus ++ ["--"] } rest
  | .plain s :: rest =>
    match d.spawn, rest with
    | none, .dashes :: rest => read { d with spawn := some s } rest
    | none, rest => read { d with spawn := some s } rest
    | some _, rest => read { d with surplus := d.surplus ++ [s] } rest

/-- The options of a command line, unless it asks for help. -/
def parse (args : List String) : Except Refusal (Option Options) := do
  match ← read {} (← wordsOf args) with
  | none => return none
  | some d =>
    let some spawn := d.spawn | throw .spawnMissing
    unless d.surplus.isEmpty do throw (.unrecognized d.surplus)
    return some { d.options with spawn }

end InputStaging.CommandLine
