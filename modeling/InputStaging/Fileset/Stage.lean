import InputStaging.Fileset.Manifest
import InputStaging.Staging

/-!
# Staging a fileset

Every entry of the manifest is staged at its location: an empty placeholder where it
has no target, and otherwise the target, taken from the execution root.
-/

namespace InputStaging.Resolver

/-- What an entry of a manifest stages. -/
def input (r : Resolver) : Option String → Input
  | none => .empty
  | some target => .location (r.execRoot / Path.ofString target)

/-- The writes that a manifest asks for. -/
def writes (r : Resolver) (m : Manifest) : List (Path × Input) :=
  m.entries.entries.map fun e => (e.1, r.input e.2)

/-- Stage a fileset beneath the base directory; the number of its entries. -/
def stage (r : Resolver) (links : List Link) (mount : Spelling) (base : Option Spelling) :
    Staging Nat := do
  let (m, log) := r.manifest links mount
  Staging.tell log
  Staging.stageAll base (r.writes (← Staging.lift m))

end InputStaging.Resolver
