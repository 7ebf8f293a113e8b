import InputStaging.Log
import InputStaging.Setup.Environment

/-!
# Spawn descriptions

A description declares artifacts and lists what an action takes of them. It is closed:
whatever it lists is either declared or a plain file, and it brings along everything
that is known about its artifacts.
-/

namespace InputStaging

/-- A blank document is an empty outline. -/
def Outline.ofDocument (d : Document) (fe : FrontEnd := .own) : Except SetupFailure Outline :=
  match d.orEmpty with
  | .mapping es =>
    if es.all fun e => e.1.isText then (fe.outline es).mapError .descriptionInvalid
    else .error .descriptionShapeless
  | _ => .error .descriptionShapeless

/-- An action, with all that is known about its artifacts. -/
structure Description where
  action : Action
  registry : Registry
  types : TypeTable

namespace Description

def ofOutline (o : Outline) : Except SetupFailure Description := do
  let mounts ← o.mounts o.filesets
  return {
    action := {
      description := o.description
      inputs := o.inputs.map o.lookup
      runfiles := o.runfilesTree
      filesets := .ofList mounts }
    registry := o.registry
    types := o.typeTable }

def ofDocument (d : Document) (fe : FrontEnd := .own) : Except SetupFailure Description := do
  ofOutline (← Outline.ofDocument d fe)

/-- What is told about a description once it is loaded. -/
def loaded (d : Description) : Event :=
  .descriptionLoaded d.action.inputs.length d.action.runfiles.size d.action.filesets.size

/-- Load a description from a file. -/
def load (e : Environment) (file : String) (fe : FrontEnd := .own) :
    Except SetupFailure Description :=
  let p := Path.ofString file
  match e.document p fe with
  | .error (.file .missing) => .error (.descriptionMissing p)
  | .error f => .error f
  | .ok (.mapping es) => ofDocument (.mapping es) fe
  | .ok _ => .error (.descriptionNotMapping p)

end Description

end InputStaging
