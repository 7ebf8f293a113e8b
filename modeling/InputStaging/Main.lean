import InputStaging.Calendar.Moment
import InputStaging.CommandLine.Session

/-!
# The command

Prints the input mapping of an action that is described in a file. Everything that the
run may look at is gathered first: variables, home directories, and the two files. The
rest is `CommandLine.run`.
-/

namespace InputStaging.Main

open CommandLine

/-- The system's number for an error, which may come with its sign turned round. -/
def codeOf (n : UInt32) : Nat := if n < 0x80000000 then n.toNat else 0x100000000 - n.toNat

def faultOf : IO.Error → FileFault
  | .noFileOrDirectory _ n _ | .inappropriateType _ n _ | .permissionDenied _ n _
  | .invalidArgument _ n _ | .noSuchThing _ n _ | .otherError n _ => .ofCode (codeOf n)
  | _ => .other 5

def readPath (p : Path) : IO (Except FileFault String) := do
  if let some fault := FileFault.ofPath? p then return .error fault
  try
    return .ok (← IO.FS.readFile p.text)
  catch e =>
    return .error (faultOf e)

/-- The text of a file, or nothing. -/
def textOf (file : String) : IO String := do
  return match ← readPath (.ofString file) with
    | .ok s => s
    | .error _ => ""

/-- Users and their home directories, from lines whose fields are divided by colons. -/
def homesOf (users : String) : Table String String :=
  .ofList ((users.splitOn "\n").filterMap fun line =>
    match line.splitOn ":" with
    | user :: _ :: _ :: _ :: _ :: home :: _ => some (user, home)
    | _ => none)

/-- The values of variables that are set. -/
def valuesOf (names : List String) : IO (List (String × String)) := do
  let mut found := []
  for n in names do
    if let some v ← IO.getEnv n then found := (n, v) :: found
  return found

/-- Variables that texts refer to, and those that their values refer to. -/
def variablesFor (texts : List String) : IO (Table String String) := do
  let first ← valuesOf (texts.flatMap fun t => Environment.mentioned t.toList)
  let second ← valuesOf (first.flatMap fun v => Environment.mentioned v.2.toList)
  let own ← valuesOf ["HOME", Settings.fileVariable]
  return .ofList (own ++ first ++ second)

/-- The working directory, or what the system says instead of it. -/
def whereabouts : IO (Path × Option FileFault) := do
  try
    return (.ofString (← IO.currentDir).toString, none)
  catch e =>
    return (.ofString "/", some (faultOf e))

/-- Everything that a run may look at. -/
def gather (o : Options) : IO Environment := do
  let (cwd, lost) ← whereabouts
  let homes := homesOf (← textOf "/etc/passwd")
  let make (vars : Table String String) (files : List (Path × Except FileFault String)) :
      Environment :=
    let read (p : Path) : Except FileFault String := (files.lookup p).getD (.error .missing)
    if h : cwd.isAbsolute = true then
      { vars, homes, workingDirectory := cwd, rooted := h, lost, read }
    else
      { vars, homes, workingDirectory := .ofString "/", rooted := by decide, lost, read }
  let bare := make (← variablesFor []) []
  let paths := (Settings.file? bare o.config).toList ++ [Path.ofString o.spawn]
  let files ← paths.mapM fun p => do return (p, ← readPath p)
  let texts := files.filterMap fun f => f.2.toOption
  return make (← variablesFor (o.execRoot.toList ++ texts)) files

/-- Seconds since 1970: when the system was started, and how long it has been up. -/
def now : IO Binary64 := do
  let started := ((← textOf "/proc/stat").splitOn "\n").findSome? fun line =>
    match line.splitOn " " with
    | ["btime", n] => Binary64.ofChars? n.toList
    | _ => none
  let up := Binary64.ofChars? ((← textOf "/proc/uptime").toList.takeWhile (· ≠ ' '))
  return (started.getD .zero).add (up.getD .zero)

/-- The time as the log writes it. -/
def timeText (form : LogForm) (t : Timestamp) : String :=
  match form with
  | .json => t.text
  | .bars => t.date.text ++ " " ++ t.timeOfDay ++ ",000"

def usage : String :=
  "usage: map-inputs [-h] [--config FILE] [--base-dir DIR] [--exec-root DIR] [--strict | --no-strict] [--policy POLICY] [--format FORMAT] [--log-level LEVEL] [--json-logs] spawn\n"

def perform (o : Options) (console : Console) : IO UInt32 := do
  let outcome := run (← gather o) o
  let time := ((Timestamp.ofMoment (← now)).toOption.map (timeText o.form)).getD ""
  IO.eprint (console.write (outcome.log.map (Record.ofEvent time)))
  IO.print outcome.output
  match outcome.ending with
  | .exit n => return UInt32.ofNat n
  | .brokeOff b =>
    IO.eprintln b.message
    return 1

end InputStaging.Main

open InputStaging InputStaging.CommandLine

def main (args : List String) : IO UInt32 := do
  match parse args with
  | .error r =>
    IO.eprint InputStaging.Main.usage
    IO.eprintln s!"map-inputs: error: {r.message}"
    return UInt32.ofNat Ending.misused
  | .ok none =>
    IO.print InputStaging.Main.usage
    return 0
  | .ok (some o) =>
    match o.console with
    | .error b =>
      IO.eprintln b.message
      return 1
    | .ok console => InputStaging.Main.perform o console
