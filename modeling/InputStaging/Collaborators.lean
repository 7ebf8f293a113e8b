import InputStaging.Failure

/-!
# Collaborators of a mapping

A mapping is told from outside which files a tree has, which links a fileset has, and
what stands behind an input. It sees both through plain functions; the registry and the
type table here are the ones that are filled by hand.
-/

namespace InputStaging

/-- Knows the members of trees and the links of filesets, or fails to say. -/
structure Expander where
  members : Artifact → Except Failure (List TreeFile)
  links : Artifact → Except Failure (List Link)

namespace Expander

/-- The members of a tree, if they are known. -/
def members? (e : Expander) (a : Artifact) : Option (List TreeFile) := (e.members a).toOption

/-- The links of a fileset, if they are known. -/
def links? (e : Expander) (a : Artifact) : Option (List Link) := (e.links a).toOption

end Expander

/-- Expansions that were registered one by one; the last registration counts. -/
structure Registry where
  trees : Table Artifact (List TreeFile) := ∅
  filesets : Table Artifact (List Link) := ∅

namespace Registry

def addTree (r : Registry) (a : Artifact) (members : List Path) : Registry :=
  { r with trees := r.trees.insert a (members.map fun m => ⟨a, m⟩) }

def addFileset (r : Registry) (a : Artifact) (links : List Link) : Registry :=
  { r with filesets := r.filesets.insert a links }

/-- Fails for what has not been registered, and for nothing else. -/
def expander (r : Registry) : Expander where
  members a := (r.trees.get? a).elim (.error (.missingExpansion a.execPath .tree)) .ok
  links a := (r.filesets.get? a).elim (.error (.missingExpansion a.execPath .fileset)) .ok

@[simp] theorem expander_members? (r : Registry) (a : Artifact) :
    r.expander.members? a = r.trees.get? a := by
  simp only [expander, Expander.members?]
  cases r.trees.get? a <;> rfl

@[simp] theorem expander_links? (r : Registry) (a : Artifact) :
    r.expander.links? a = r.filesets.get? a := by
  simp only [expander, Expander.links?]
  cases r.filesets.get? a <;> rfl

end Registry

/-- Says what stands behind an input, or fails to. -/
abbrev Metadata := Input → Except Failure FileType

/-- File types by path, with one type for every other path. -/
structure TypeTable where
  types : Table Path FileType := ∅
  default : FileType := .absent

namespace TypeTable

def set (t : TypeTable) (p : Path) (type : FileType) : TypeTable :=
  { t with types := t.types.insert p type }

/-- Nothing stands behind the placeholder. -/
def typeOf (t : TypeTable) (v : Input) : FileType :=
  match v.execPath? with
  | none => .absent
  | some p => (t.types.get? p).getD t.default

def metadata (t : TypeTable) : Metadata := fun v => .ok (t.typeOf v)

end TypeTable

end InputStaging
