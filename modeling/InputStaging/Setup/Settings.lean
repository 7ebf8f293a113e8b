import InputStaging.Engine
import InputStaging.Setup.Environment

/-!
# Settings of the engine

Settings come from a document, either from all of it or from its section for this
program. What is not set has a default. A few settings can be overridden afterwards;
then all of them are read once more.
-/

namespace InputStaging

structure Settings extends Settings.Choices where
  execRoot : Path
  rooted : execRoot.isAbsolute = true

/-- The engine that settings ask for. -/
def Engine.ofSettings (s : Settings) : Engine where
  resolver := { execRoot := s.execRoot, policy := s.policy, rooted := s.rooted }
  strict := s.strict
  conflictMode := s.conflictMode

namespace Settings

open Document

/-- What a text that names no directory breaks the reading of settings off with, if it is not
put down to the text. -/
def breakage? : DirectoryFault → Option SetupFailure
  | .homeUnknown => some .homeUnknown
  | .lost fault => some (.file fault)
  | .unspeakable => none

/-- Why the execution root cannot be looked up; `invalid` reports what is wrong with it. -/
def rootFailure (invalid : List Violation → SetupFailure) (fault : DirectoryFault) : SetupFailure :=
  (breakage? fault).getD (invalid [⟨[.field "exec_root"], .value⟩])

/-- The settings with these choices and an execution root that has been looked up. -/
def Choices.rootedAt (c : Choices) (root : { p : Path // p.isAbsolute = true }) : Settings :=
  { c with execRoot := root.1, rooted := root.2 }

/-- Look up what the execution root's name stands for. -/
def Written.settings (w : Written) (e : Environment) (invalid : List Violation → SetupFailure) :
    Except SetupFailure Settings :=
  ((e.directory w.execRoot).mapError (rootFailure invalid)).map w.toChoices.rootedAt

/-- A text that may name a directory, even if the system has no answer to what it names. -/
def readDirectory (e : Environment) : Reader String
  | .text s =>
    match e.directory s with
    | .error .unspeakable => .refuse .value
    | _ => .ok s
  | _ => .refuse .path

/-- What the execution root breaks the reading of settings off with. -/
def brokenOff? (e : Environment) (es : List (Document × Document)) : Option SetupFailure :=
  match rootDocument es with
  | .text root =>
    match e.directory root with
    | .error fault => breakage? fault
    | .ok _ => none
  | _ => none

/-- Read settings, field by field. What the execution root breaks off with comes up on the way,
before anything that is wrong is reported. -/
def judge (e : Environment) (invalid : List Violation → SetupFailure)
    (es : List (Document × Document)) (fe : FrontEnd := .own) : Except SetupFailure Settings :=
  match brokenOff? e es with
  | some failure => .error failure
  | none => do
    let written ← (fe.settings (readDirectory e) es).mapError invalid
    written.settings e invalid

/-- The settings of someone who sets nothing. -/
def default (e : Environment) (fe : FrontEnd := .own) : Except SetupFailure Settings :=
  judge e .overrideInvalid [] fe

/-- The part of a document that holds the settings. -/
def sectionOf (source : String) (d : Document) :
    Except SetupFailure (List (Document × Document)) :=
  match d with
  | .mapping es =>
    match (valueOf? es "spawn_inputs").getD d with
    | .mapping s => .ok s
    | _ => .error (.sectionNotMapping source)
  | d => .error (.settingsNotMapping source d.typeName)

/-- Read settings from a document. -/
def ofDocument (e : Environment) (source : String) (d : Document) (fe : FrontEnd := .own) :
    Except SetupFailure Settings := do
  let es ← sectionOf source d
  unless es.all fun entry => entry.1.isText do throw .settingUnnamed
  judge e (.settingsInvalid source) es fe

/-- What is told about settings once they are loaded. -/
def loaded (s : Settings) (source : String) : Event :=
  .settingsLoaded source s.strict s.policy.label s.conflictMode.label

/-- The variable that names the file with the settings, if the caller names none. -/
def fileVariable : String := "SPAWN_INPUTS_CONFIG"

/-- The file to read settings from, unless it is not named, or named by nothing. -/
def file? (e : Environment) (file : Option String) : Option Path :=
  ((file <|> e.vars.get? fileVariable).filter (· ≠ "")).map Path.ofString

/-- No file can be there under this name. -/
def isAbsent : FileFault → Bool
  | .missing | .notDirectory | .tooManyLinks | .nullByte | .unspeakable _ _ => true
  | _ => false

/-- Load settings. A file that is not there is told about, and leaves the defaults. -/
def load (e : Environment) (file : Option String) (fe : FrontEnd := .own) :
    Except SetupFailure Settings × List Event :=
  match file? e file with
  | none => (default e fe, [])
  | some p =>
    match e.document p fe with
    | .error (.file f) =>
      if isAbsent f then (default e fe, [.settingsMissing p.text]) else (.error (.file f), [])
    | .error f => (.error f, [])
    | .ok d =>
      match ofDocument e p.text d fe with
      | .error f => (.error f, [])
      | .ok s => (.ok s, [s.loaded p.text])

/-- Settings that take precedence over loaded ones. -/
structure Overrides where
  execRoot : Option String := none
  strict : Option Bool := none
  policy : Option { p : EscapePolicy // p ∈ EscapePolicy.known } := none

def Overrides.isEmpty (o : Overrides) : Bool :=
  o.execRoot.isNone && o.strict.isNone && o.policy.isNone

/-- The fields that are overridden, as they are written. -/
def Overrides.fields (o : Overrides) : List (Document × Document) :=
  (o.execRoot.map fun text => (.text "exec_root", .text text)).toList ++
    (o.strict.map fun strict => (.text "strict", .bool strict)).toList ++
    (o.policy.map fun policy => (.text "relative_symlink_policy", .text policy.1.label)).toList

/-- Settings as they are written, field by field. -/
def fields (s : Settings) : List (Document × Document) :=
  [(.text "exec_root", .text s.execRoot.text),
   (.text "strict", .bool s.strict),
   (.text "relative_symlink_policy", .text s.policy.label),
   (.text "conflict_mode", .text s.conflictMode.label),
   (.text "max_concurrent_mappings", s.maxConcurrent.elim .null fun n => .int n)]

/-- Override settings. If anything is overridden, all of them are written down and read again. -/
def override (s : Settings) (e : Environment) (o : Overrides) (fe : FrontEnd := .own) :
    Except SetupFailure Settings :=
  if o.isEmpty then .ok s
  else judge e .overrideInvalid (distinct sameKey (s.fields ++ o.fields)) fe

end Settings

end InputStaging
