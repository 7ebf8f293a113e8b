import InputStaging.Collaborators
import InputStaging.Fileset.Stage

/-!
# The engine

Maps the inputs of an action in three phases: direct inputs, runfiles, and filesets
mounted at their own paths. All three write to one ledger, so that a later phase
replaces what an earlier one staged at the same destination.
-/

namespace InputStaging

structure Engine where
  resolver : Resolver
  /-- Refuse a plain runfile behind which there is no regular file. -/
  strict : Bool := false
  conflictMode : ConflictMode := .overwrite

namespace Engine

def make (execRoot : Path) (strict : Bool := false) (policy : EscapePolicy := .error)
    (conflictMode : ConflictMode := .overwrite) : Except Failure Engine := do
  return { resolver := ← Resolver.make execRoot policy, strict, conflictMode }

/-- What an expander says of an artifact. That something is not registered is told before the
call fails; of any other failure nothing is told. -/
def expand {α : Type} (known : Except Failure α) (missing : Event) : Staging α := do
  if let .error failure := known then
    if failure.isInternal then Staging.tell [missing]
  Staging.lift known

/-- The members of a tree. -/
def expandTree (e : Expander) (a : Artifact) : Staging (List TreeFile) :=
  expand (e.members a) (.treeUnregistered a.execPath)

/-- The links of a fileset. -/
def expandFileset (e : Expander) (a : Artifact) : Staging (List Link) :=
  expand (e.links a) (.filesetUnregistered a.execPath)

/-- Types that a strict engine accepts. What is absent may be produced later. -/
def accepts : FileType → Bool
  | .file | .absent => true
  | .directory | .symlink => false

/-- Refuse an artifact behind which there is something other than a file. -/
def checkFile (metadata : Metadata) (a : Artifact) : Staging Unit := do
  let type ← Staging.lift (metadata (.artifact a))
  unless accepts type do
    Staging.tell [.inputRejected (.artifact a) type]
    throw (.forbiddenInput a.execPath)

/-- A direct input stands at its own path. -/
def stageInput (expander : Expander) (base : Option Spelling) (a : Artifact) : Staging Nat := do
  match a.kind with
  | .tree =>
    let members ← expandTree expander a
    Staging.stageAll base (members.map fun f => (f.execPath, .treeFile f))
  | .file => Staging.stageAll base [(a.execPath, .artifact a)]
  | .fileset => throw (.filesetAsInput a.execPath)
  | .other label => throw (.unknownKind label)

def stageInputs (expander : Expander) (base : Option Spelling) : List Artifact → Staging Nat
  | [] => pure 0
  | a :: rest => do
    let n ← stageInput expander base a
    return n + (← stageInputs expander base rest)

/-- An entry of a runfiles tree, at its location. -/
def stageRunfile (e : Engine) (metadata : Metadata) (expander : Expander)
    (base : Option Spelling) (location : Path) : Option Artifact → Staging Nat
  | none => Staging.stageAll base [(location, .empty)]
  | some a =>
    match a.kind with
    | .tree => do
      let members ← expandTree expander a
      Staging.stageAll base (members.map fun f => (location / f.relative, .treeFile f))
    | .fileset => do
      let links ← expandFileset expander a
      e.resolver.stage links (.ofPath location) base
    | .file => do
      if e.strict then checkFile metadata a
      Staging.stageAll base [(location, .artifact a)]
    | .other label => throw (.unknownKind label)

/-- The entries below one root. -/
def stageRunfilesBelow (e : Engine) (metadata : Metadata) (expander : Expander)
    (base : Option Spelling) (root : Path) : List (Path × Option Artifact) → Staging Nat
  | [] => pure 0
  | (relative, a) :: rest => do
    let location := root / (← Staging.lift (Spelling.ofPath relative).relative)
    let n ← e.stageRunfile metadata expander base location a
    return n + (← e.stageRunfilesBelow metadata expander base root rest)

def stageRoots (e : Engine) (metadata : Metadata) (expander : Expander)
    (base : Option Spelling) : List (Path × Table Path (Option Artifact)) → Staging Nat
  | [] => pure 0
  | (root, entries) :: rest => do
    let root ← Staging.lift (Spelling.ofPath root).relative
    let n ← e.stageRunfilesBelow metadata expander base root entries.entries
    return n + (← e.stageRoots metadata expander base rest)

/-- Stage a runfiles tree; the number of writes. -/
def stageRunfiles (e : Engine) (metadata : Metadata) (expander : Expander)
    (base : Option Spelling) (runfiles : Runfiles) : Staging Nat :=
  e.stageRoots metadata expander base runfiles.entries

/-- A runfiles tree on its own. -/
def runfilesTable (e : Engine) (metadata : Metadata) (expander : Expander)
    (base : Option Spelling) (runfiles : Runfiles) : Except Failure (Table Path Input) × List Event :=
  let (outcome, p) := (e.stageRunfiles metadata expander base runfiles).run.run {}
  (outcome.map fun _ => p.ledger.entries, p.log)

def stageMounts (e : Engine) (base : Option Spelling) : List (Artifact × List Link) → Staging Nat
  | [] => pure 0
  | (a, links) :: rest => do
    unless a.isFileset do throw (.notFileset a.execPath)
    let n ← e.resolver.stage links (.ofPath a.execPath) base
    return n + (← e.stageMounts base rest)

/-- Stage filesets, each mounted at its own path; the number of writes. -/
def stageFilesets (e : Engine) (base : Option Spelling) (filesets : Filesets) : Staging Nat :=
  e.stageMounts base filesets.entries

/-- The three phases of a call, beneath a base directory that was judged before. -/
def stageAction (e : Engine) (action : Action) (expander : Expander) (base : Path)
    (metadata : Metadata) : Staging Unit := do
  let base := some (Spelling.ofPath base)
  Staging.enter .inputs
  let direct ← stageInputs expander base action.inputs
  Staging.enter .runfiles
  let runfiles ← e.stageRunfiles metadata expander base action.runfiles
  Staging.enter .filesets
  let filesets ← e.stageFilesets base action.filesets
  let ledger := (← get).ledger
  Staging.tell [.mapped direct runfiles filesets ledger.entries.size ledger.conflicts.length]

/-- One call, from an empty ledger: its outcome and how far it came. -/
def run (e : Engine) (action : Action) (expander : Expander) (base : Option Spelling)
    (metadata : Metadata) : Except Failure Unit × Progress :=
  let start : Progress := { ledger := { mode := e.conflictMode } }
  match Path.baseDirectory base with
  | .error f => (.error f, start)
  | .ok base => (e.stageAction action expander base metadata).run.run start

/-- The inputs of an action by destination, in the order of the destinations. -/
def map (e : Engine) (action : Action) (expander : Expander) (base : Option Spelling)
    (metadata : Metadata) : Except Failure (List (Path × Input)) × List Event :=
  let (outcome, p) := e.run action expander base metadata
  (outcome.map fun _ => p.ledger.entries.sorted, p.log)

end Engine

end InputStaging
