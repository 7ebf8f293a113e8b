import InputStaging.CommandLine.Options
import InputStaging.Listing
import InputStaging.Log.Console
import InputStaging.Setup.Description
import InputStaging.Setup.Settings

/-!
# A run of the command

From a command line to what is printed: the settings are loaded and overridden, the
description is loaded, its inputs are mapped, and the mapping is listed. A failure that
can be put down to the files or to the action ends the run with a status of its own; any
other breaks it off.
-/

namespace InputStaging.CommandLine

/-- A failure that no status stands for. -/
inductive Breakdown where
  | unknownLevel (name : String)
  /-- The option for the level is given without a value. -/
  | noLevel
  /-- The option for the base directory is given without a value. -/
  | noBaseDirectory
  | setup (f : SetupFailure)
  | mapping (f : Failure)

def Breakdown.message : Breakdown → String
  | unknownLevel name => Console.unknownLevel name
  | noLevel => "'list' object has no attribute 'upper'"
  | noBaseDirectory => "expected str, bytes or os.PathLike object, not list"
  | setup f => f.message
  | mapping f => f.message

inductive Ending where
  | exit (status : Nat)
  | brokeOff (b : Breakdown)

namespace Ending

def success : Nat := 0

/-- The action declares inputs that cannot be staged. -/
def inputsInvalid : Nat := 1

/-- The description handed over something that it should never contain. -/
def internal : Nat := 2

/-- The command line cannot be read; this status it shares with an internal failure. -/
def misused : Nat := 2

/-- A description or the settings are at fault. -/
def configuration : Nat := 3

end Ending

structure Outcome where
  /-- What is told about the run, in order. -/
  log : List Event := []
  output : String := ""
  ending : Ending

/-- What a run maps, and with what. -/
structure Job where
  settings : Settings
  description : Description

def Options.overrides (o : Options) : Settings.Overrides where
  execRoot := o.execRoot.filter (· ≠ "")
  strict := o.strict
  policy := o.policy

/-- Settings and description of a run; the settings come first. -/
def prepare (e : Environment) (o : Options) (fe : FrontEnd := .own) :
    Except SetupFailure Job × List Event :=
  match Settings.load e o.config fe with
  | (.error f, log) => (.error f, log)
  | (.ok s, log) =>
    match s.override e o.overrides fe with
    | .error f => (.error f, log)
    | .ok settings =>
      match Description.load e o.spawn fe with
      | .error f => (.error f, log)
      | .ok description => (.ok { settings, description }, log ++ [description.loaded])

/-- What stands behind the settings and the description of a run. -/
theorem prepare_eq_ok {e : Environment} {o : Options} {fe : FrontEnd} {job : Job}
    {log : List Event} (h : prepare e o fe = (.ok job, log)) :
    ∃ s before, Settings.load e o.config fe = (.ok s, before) ∧
      s.override e o.overrides fe = .ok job.settings ∧
      Description.load e o.spawn fe = .ok job.description ∧
      log = before ++ [job.description.loaded] := by
  unfold prepare at h
  split at h
  · cases h
  next s before hload =>
    split at h
    · cases h
    next settings hsettings =>
      split at h
      · cases h
      next description hdescription =>
        obtain ⟨hjob, rfl⟩ := Prod.mk.inj h
        obtain rfl := Except.ok.inj hjob
        exact ⟨s, before, hload, hsettings, hdescription, rfl⟩

def Job.map (j : Job) (base : String) : Except Failure (List (Path × Input)) × List Event :=
  (Engine.ofSettings j.settings).map j.description.action j.description.registry.expander
    (some (.ofPath (.ofString base))) j.description.types.metadata

/-- The listing that is asked for, which ends with a line end unless it is empty. -/
def listing (o : Options) (mapping : List (Path × Input)) : String :=
  let t : Table Path Input := .ofList mapping
  if o.json then Listing.json (Listing.rows t) ++ "\n" else Listing.text t

def mappingFailed (f : Failure) (log : List Event) : Outcome :=
  if f.isInternal then
    { log := log ++ [.internalFailed f.message], ending := .exit Ending.internal }
  else if f.isInputFault then
    { log := log ++ [.inputsInvalid f.message], ending := .exit Ending.inputsInvalid }
  else { log, ending := .brokeOff (.mapping f) }

/-- A failure to tell what a fileset consists of is one of the mapping, however early it is. -/
def setupFailed (f : SetupFailure) (log : List Event) : Outcome :=
  match f with
  | .expansion failure => mappingFailed failure log
  | f =>
    if f.isConfiguration then
      { log := log ++ [.configurationFailed f.headline f.details?]
        ending := .exit Ending.configuration }
    else { log, ending := .brokeOff (.setup f) }

/-- What becomes of a run once settings and description are known, or are not. -/
def conclude (o : Options) (prepared : Except SetupFailure Job × List Event) : Outcome :=
  match prepared, o.baseDirectory with
  | (.error f, log), _ => setupFailed f log
  | (.ok _, log), none => { log, ending := .brokeOff .noBaseDirectory }
  | (.ok job, log), some base =>
    match job.map base with
    | (.error f, more) => mappingFailed f (log ++ more)
    | (.ok mapping, more) =>
      { log := log ++ more, output := listing o mapping, ending := .exit Ending.success }

def run (e : Environment) (o : Options) (fe : FrontEnd := .own) : Outcome :=
  conclude o (prepare e o fe)

def Options.form (o : Options) : LogForm := if o.jsonLogs then .json else .bars

/-- The console that a run writes to. -/
def Options.console (o : Options) : Except Breakdown Console :=
  match o.logLevel with
  | none => .error .noLevel
  | some level =>
    match Console.configure {} level o.form with
    | (c, .ok ()) => .ok c
    | (_, .error name) => .error (.unknownLevel name)

end InputStaging.CommandLine
