import InputStaging.Input

/-!
# What is logged

Events are kept as values; their level, their wording and the name of the part that
reports them are read off the event.
-/

namespace InputStaging

inductive Level where
  | unset
  | debug
  | info
  | warning
  | error
  | critical
  deriving DecidableEq, Repr

namespace Level

def severity : Level → Nat
  | unset => 0
  | debug => 10
  | info => 20
  | warning => 30
  | error => 40
  | critical => 50

def name : Level → String
  | unset => "NOTSET"
  | debug => "DEBUG"
  | info => "INFO"
  | warning => "WARNING"
  | error => "ERROR"
  | critical => "CRITICAL"

/-- The names a level goes by, two of which are second names. -/
def names : List (String × Level) :=
  [("CRITICAL", critical), ("FATAL", critical), ("ERROR", error), ("WARN", warning),
   ("WARNING", warning), ("INFO", info), ("DEBUG", debug), ("NOTSET", unset)]

def ofName? (s : String) : Option Level := names.lookup s

end Level

/-- Something worth telling that happened during a call. -/
inductive Event where
  | linkResolved (location resolved : Path)
  | linkIgnored (location : Path) (target : String) (mount : Path)
  | chainTooLong (location : Path) (hops limit : Nat)
  | linkCycle (location : Path) (seen : List Path)
  | linkDangling (location missing mount : Path)
  | inputRejected (input : Input) (type : FileType)
  | treeUnregistered (execPath : Path)
  | filesetUnregistered (execPath : Path)
  | inputReplaced (phase previousPhase : String) (previous replacement : Input) (path : Path)
  | mapped (direct runfiles filesets destinations conflicts : Nat)
  | descriptionLoaded (inputs roots filesets : Nat)
  | settingsMissing (file : String)
  | settingsLoaded (source : String) (strict : Bool) (policy conflictMode : String)
  | serviceStarted (limit : Nat)
  | configurationFailed (headline : String) (details : Option String)
  | internalFailed (reason : String)
  | inputsInvalid (reason : String)
  deriving DecidableEq

namespace Event

def level : Event → Level
  | linkResolved .. | inputRejected .. | mapped .. | descriptionLoaded .. => .debug
  | settingsLoaded .. | serviceStarted .. => .info
  | linkIgnored .. | chainTooLong .. | linkCycle .. | linkDangling .. | inputReplaced ..
  | settingsMissing .. => .warning
  | treeUnregistered .. | filesetUnregistered .. | configurationFailed .. | internalFailed ..
  | inputsInvalid .. => .error

/-- The name of the logger that reports the event. -/
def logger : Event → String
  | linkResolved .. | linkIgnored .. | chainTooLong .. | linkCycle .. | linkDangling .. =>
      "spawn_inputs.core.fileset"
  | inputRejected .. | treeUnregistered .. | filesetUnregistered .. =>
      "spawn_inputs.core.runfiles"
  | inputReplaced .. | mapped .. => "spawn_inputs.core.input_mapping"
  | descriptionLoaded .. => "spawn_inputs.core.spawn_description"
  | settingsMissing .. | settingsLoaded .. => "spawn_inputs.config"
  | serviceStarted .. => "spawn_inputs.services.mapping_service"
  | configurationFailed .. | internalFailed .. | inputsInvalid .. =>
      "spawn_inputs.cli.map_inputs"

/-- Truth values as messages spell them. -/
def truth : Bool → String
  | true => "True"
  | false => "False"

def message : Event → String
  | linkResolved loc resolved => s!"Resolved fileset symlink {loc.text} -> {resolved.text}"
  | linkIgnored loc target mount =>
      s!"Ignoring fileset symlink {loc.text} -> {target}: target is outside {mount.text}"
  | chainTooLong loc hops limit =>
      s!"Symlink {loc.text} is part of a chain of length at least {hops}, exceeding the limit of {limit}"
  | linkCycle loc seen =>
      s!"Symlink {loc.text} forms a symlink cycle: " ++ ", ".intercalate (seen.map Path.text)
  | linkDangling loc missing mount =>
      s!"Symlink {loc.text} (transitively) points to {missing.text}, which is not an entry of {mount.text}"
  | inputRejected v type => s!"Rejecting {v.text}: metadata reports {type.label}"
  | treeUnregistered p =>
      s!"Internal error: tree artifact {p.text} was never registered for expansion"
  | filesetUnregistered p =>
      s!"Internal error: fileset {p.text} was never registered for expansion"
  | inputReplaced phase previousPhase previous replacement path =>
      s!"{phase} entry {replacement.text} replaces {previousPhase} entry {previous.text} at {path.text}"
  | mapped direct runfiles filesets destinations conflicts =>
      s!"Mapped spawn inputs: {direct} direct, {runfiles} runfiles, {filesets} fileset entries -> {destinations} destinations"
        ++ (if conflicts = 0 then "" else s!" ({conflicts} conflicts)")
  | descriptionLoaded inputs roots filesets =>
      s!"Loaded spawn description: {inputs} inputs, {roots} runfiles roots, {filesets} filesets"
  | settingsMissing file => s!"Spawn input config not found at {file}. Using defaults."
  | settingsLoaded source strict policy mode =>
      s!"Loaded spawn input config from {source}: strict={truth strict}, relative_symlink_policy={policy}, conflict_mode={mode}"
  | serviceStarted limit => s!"InputMappingService initialized: max_concurrent={limit}"
  | configurationFailed headline details =>
      s!"Configuration error: {headline}" ++ (details.map (": " ++ ·)).getD ""
  | internalFailed reason => s!"Internal error (please report): {reason}"
  | inputsInvalid reason => s!"Action inputs invalid: {reason}"

end Event

end InputStaging
