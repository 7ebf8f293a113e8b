import InputStaging.Path.Lexical
import InputStaging.Table

/-!
# Inputs of an action

What an action declares (artifacts, runfiles, filesets) and what ends up staged at a
destination: a declared file, one file of an expanded tree, a file known only by its
location, or an empty placeholder.
-/

namespace InputStaging

/-- What an artifact is, which decides how it is expanded. A label from outside the
known three is kept, so that it can be reported. -/
inductive Kind where
  | file
  | tree
  | fileset
  | other (label : String)
  deriving DecidableEq, Repr

namespace Kind

def label : Kind → String
  | file => "file"
  | tree => "tree"
  | fileset => "fileset"
  | other l => l

def known : List Kind := [file, tree, fileset]

def ofLabel (l : String) : Kind :=
  (known.find? (·.label = l)).getD (other l)

end Kind

structure Artifact where
  execPath : Path
  kind : Kind := .file
  deriving DecidableEq

namespace Artifact

def isTree (a : Artifact) : Bool := a.kind = .tree

def isFileset (a : Artifact) : Bool := a.kind = .fileset

end Artifact

/-- One file of an expanded tree. -/
structure TreeFile where
  parent : Artifact
  relative : Path
  deriving DecidableEq

def TreeFile.execPath (f : TreeFile) : Path := f.parent.execPath / f.relative

/-- What is staged at a destination. -/
inductive Input where
  | artifact (a : Artifact)
  | treeFile (f : TreeFile)
  | location (p : Path)
  | empty
  deriving DecidableEq

namespace Input

def execPath? : Input → Option Path
  | artifact a => some a.execPath
  | treeFile f => some f.execPath
  | location p => some p
  | empty => none

/-- How a message names the input; the placeholder has no name. -/
def text (v : Input) : String := (v.execPath?.map Path.text).getD ""

/-- The kind label of listings. -/
def label : Input → String
  | artifact a => a.kind.label
  | treeFile _ => "tree_file"
  | location _ => "path"
  | empty => "empty"

end Input

/-- One declared entry of a fileset: where it stands below the mount, and what it
points to. No target, or an empty one, asks for an empty placeholder. -/
structure Link where
  name : Path
  target : Option String := none
  /-- A relative target is taken from the execution root, not from the link's directory. -/
  execAnchored : Bool := false
  deriving DecidableEq

namespace Link

/-- The target, unless it is missing or empty. -/
def target? (l : Link) : Option String := l.target.filter (· ≠ "")

def isEmpty (l : Link) : Bool := l.target?.isNone

/-- A target that is to be read from the link's own directory. -/
def relativeTarget? (l : Link) : Option String :=
  if l.execAnchored then none
  else l.target?.filter fun t => !(Path.ofString t).isAbsolute

def isRelative (l : Link) : Bool := l.relativeTarget?.isSome

end Link

/-- What to do with a link whose relative target leaves its fileset: refuse the whole
mapping, anchor the target at the execution root, or leave the entry out. -/
inductive EscapePolicy where
  | error
  | resolve
  | ignore
  | other (label : String)
  deriving DecidableEq, Repr

namespace EscapePolicy

def label : EscapePolicy → String
  | error => "error"
  | resolve => "resolve"
  | ignore => "ignore"
  | other l => l

def known : List EscapePolicy := [error, resolve, ignore]

def ofLabel (l : String) : EscapePolicy :=
  (known.find? (·.label = l)).getD (other l)

/-- The policy of this name, if it is one that is known. -/
def known? (l : String) : Option { p : EscapePolicy // p ∈ known } :=
  known.attach.find? (·.1.label = l)

end EscapePolicy

/-- What stands behind an input on disk. -/
inductive FileType where
  | file
  | directory
  | symlink
  | absent
  deriving DecidableEq, Repr

namespace FileType

def label : FileType → String
  | file => "file"
  | directory => "directory"
  | symlink => "symlink"
  | absent => "absent"

def all : List FileType := [file, directory, symlink, absent]

def ofLabel? (l : String) : Option FileType := all.find? (·.label = l)

end FileType

/-- For each root, the entries below it; an entry without artifact asks for an empty
placeholder. -/
abbrev Runfiles := Table Path (Table Path (Option Artifact))

abbrev Filesets := Table Artifact (List Link)

/-- The declared inputs of one action. -/
structure Action where
  description : String := ""
  inputs : List Artifact := []
  runfiles : Runfiles := ∅
  filesets : Filesets := ∅

end InputStaging
