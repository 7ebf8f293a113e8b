import InputStaging.Collaborators
import InputStaging.Setup.Failure

/-!
# Outlines of spawn descriptions

What a description says, field by field: the artifacts that it declares, and what an action
takes of them. References are resolved by their spelling; what they refer to is registered by
path and kind.
-/

namespace InputStaging

/-- An artifact as declared. -/
structure Declared where
  kind : Kind
  type : Option FileType
  members : List String
  links : List Link

/-- A description, checked field by field. -/
structure Outline where
  description : String
  artifacts : List (String × Declared)
  inputs : List String
  runfiles : List (String × List (String × Option String))
  filesets : List String

namespace Outline

open Document

def readLink : Reader Link := readRecord fun es =>
  (readField "name" (.refuse .present) readText es
    |>.and (readField "target" (.ok none) (orNull readText) es)
    |>.and (readField "relative_to_exec_root" (.ok false) readBool es)).map
    fun ((name, target), execAnchored) => { name := .ofString name, target, execAnchored }

def kinds : List (String × Kind) := Kind.known.map fun k => (k.label, k)

def types : List (String × FileType) := FileType.all.map fun t => (t.label, t)

def readDeclared : Reader Declared := readRecord fun es =>
  (readField "kind" (.ok .file) (readName kinds .member) es
    |>.and (readField "type" (.ok none) (orNull (readName types .member)) es)
    |>.and (readField "members" (.ok []) (readList readText) es)
    |>.and (readField "links" (.ok []) (readList readLink) es)).map
    fun (((kind, type), members), links) => { kind, type, members, links }

def readFields (es : List (Document × Document)) : Checked Outline :=
  (readField "description" (.ok "") readText es
    |>.and (readField "artifacts" (.ok []) (readEntries readDeclared) es)
    |>.and (readField "inputs" (.ok []) (readList readText) es)
    |>.and (readField "runfiles" (.ok []) (readEntries (readEntries (orNull readText))) es)
    |>.and (readField "filesets" (.ok []) (readList readText) es)).map
    fun ((((description, artifacts), inputs), runfiles), filesets) =>
      { description, artifacts, inputs, runfiles, filesets }

def artifactOf (path : String) (d : Declared) : Artifact := ⟨.ofString path, d.kind⟩

/-- What a reference means: the artifact declared in this spelling, or a plain file. -/
def lookup (o : Outline) (path : String) : Artifact :=
  ((o.artifacts.lookup path).map (artifactOf path)).getD ⟨.ofString path, .file⟩

/-- Make known what is declared about an artifact. -/
def register (r : Registry) (path : String) (d : Declared) : Registry :=
  match d.kind with
  | .tree => r.addTree (artifactOf path d) (d.members.map .ofString)
  | .fileset => r.addFileset (artifactOf path d) d.links
  | _ => r

def registry (o : Outline) : Registry :=
  o.artifacts.foldl (fun r (path, d) => register r path d) {}

/-- Artifacts of no declared type are taken for files. -/
def typeTable (o : Outline) : TypeTable :=
  o.artifacts.foldl
    (fun t (path, d) => (d.type.map (t.set (.ofString path))).getD t)
    { default := .file }

/-- Of two roots that are the same path, the later one replaces the earlier with all its
entries. -/
def runfilesTree (o : Outline) : Runfiles :=
  .ofList (o.runfiles.map fun (root, entries) =>
    (.ofString root, .ofList (entries.map fun (path, source) =>
      (Path.ofString path, source.map o.lookup))))

/-- The listed filesets with the links that are registered for them. -/
def mounts (o : Outline) : List String → Except SetupFailure (List (Artifact × List Link))
  | [] => .ok []
  | path :: rest => do
    let a := o.lookup path
    unless a.isFileset do throw (.undeclaredFileset path)
    let links ← (o.registry.expander.links a).mapError .expansion
    return (a, links) :: (← o.mounts rest)

end Outline

end InputStaging
