import InputStaging.Document.Schema
import InputStaging.Failure
import InputStaging.Yaml.Fault

/-!
# Failures of the setup

What can go wrong before anything is mapped: while a description or the settings are
found, read and judged. Most of it is put down to the files and reported as such. The
rest breaks off.
-/

namespace InputStaging

inductive SetupFailure where
  | descriptionMissing (file : Path)
  | unparsable (file : Path) (reason : Yaml.Malformation)
  | descriptionNotMapping (file : Path)
  /-- A description that cannot be taken field by field at all. -/
  | descriptionShapeless
  | descriptionInvalid (violations : List Violation)
  | undeclaredFileset (path : String)
  | settingsNotMapping (source type : String)
  | sectionNotMapping (source : String)
  | settingsInvalid (source : String) (violations : List Violation)
  /-- Settings that come from no file are at fault. -/
  | overrideInvalid (violations : List Violation)
  /-- The name of a setting is not text. -/
  | settingUnnamed
  | homeUnknown
  /-- A scalar in a file is spelt like a value of its type and has none. -/
  | scalar (fault : Yaml.ScalarFault)
  | file (fault : FileFault)
  /-- What a fileset consists of could not be told. -/
  | expansion (failure : Failure)

namespace SetupFailure

def stepText (s : Step) : String :=
  match s.place with
  | .number n => toString n
  | .name t => t

/-- Where and how a part of a document is not what it should be. -/
def violationText (v : Violation) : String :=
  ".".intercalate (v.location.map stepText) ++ " " ++ v.expected.code

/-- What is said about the failure, without the details. -/
def headline : SetupFailure → String
  | descriptionMissing f => s!"Spawn description not found at {f.text}"
  | unparsable f _ => s!"Failed to parse {f.text}"
  | descriptionNotMapping f => s!"{f.text} must contain a mapping"
  | descriptionShapeless | descriptionInvalid _ => "Invalid spawn description"
  | undeclaredFileset p => s!"{p} is listed under filesets but is not declared as a fileset"
  | settingsNotMapping source type => s!"{source} must contain a mapping, got {type}"
  | sectionNotMapping source => s!"'spawn_inputs' in {source} must be a mapping"
  | settingsInvalid source _ => s!"Invalid spawn input config in {source}"
  | overrideInvalid _ => "Invalid settings"
  | settingUnnamed => "keywords must be strings"
  | homeUnknown => "Could not determine home directory."
  | scalar f => f.message
  | file f => f.message
  | expansion f => f.message

/-- What follows the headline, if anything does. -/
def details? : SetupFailure → Option String
  | unparsable _ m => some m.message
  | descriptionShapeless => some "fields must have names"
  | descriptionInvalid vs | settingsInvalid _ vs | overrideInvalid vs => some ("; ".intercalate (vs.map violationText))
  | _ => none

def message (f : SetupFailure) : String :=
  f.headline ++ (f.details?.map (": " ++ ·)).getD ""

/-- The failure is put down to a description or to the settings. -/
def isConfiguration : SetupFailure → Bool
  | overrideInvalid _ | settingUnnamed | homeUnknown | scalar _ | file _ | expansion _ => false
  | _ => true

/-- What went wrong with the text of a file. -/
def ofYaml (file : Path) : Yaml.Fault → SetupFailure
  | .malformed m => unparsable file m
  | .scalar f => scalar f

end SetupFailure

end InputStaging
