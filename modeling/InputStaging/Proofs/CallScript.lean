import InputStaging.Proofs.Script

/-!
# The script of a mapping call

Each part of a call is the play of a script, and so is the call up to its last event.
The scripts follow the parts one by one; the equations beside them are all that is
needed of the parts themselves.
-/

namespace InputStaging

namespace Resolver

/-- Tell what building the manifest tells, and stage its entries. -/
def script (r : Resolver) (links : List Link) (mount : Path) : Script Nat := do
  Script.telling (r.manifest links (.ofPath mount)).2
  let m ← Script.ending (r.manifest links (.ofPath mount)).1
  Script.staging (r.writes m)

/-- The same at a mount in a spelling of its own. -/
def scriptAt (r : Resolver) (links : List Link) (mount : Spelling) : Script Nat := do
  Script.telling (r.manifest links mount).2
  let m ← Script.ending (r.manifest links mount).1
  Script.staging (r.writes m)

theorem play_scriptAt (r : Resolver) (links : List Link) (mount : Spelling)
    (base : Option Spelling) : (r.scriptAt links mount).play base = r.stage links mount base := by
  simp only [scriptAt, Script.play_bind, Script.play_telling, Script.play_ending,
    Script.play_staging]
  rfl

theorem play_script (r : Resolver) (links : List Link) (mount : Path) (base : Option Spelling) :
    (r.script links mount).play base = r.stage links (.ofPath mount) base :=
  r.play_scriptAt links (.ofPath mount) base

end Resolver

namespace Engine

/-- What an expander knows, or its failure, perhaps with an event before it. -/
def expansionScript {α : Type} (known : Except Failure α) (missing : Event) : Script α :=
  match known with
  | .ok a => pure a
  | .error failure => do
    Script.telling (if failure.isInternal then [missing] else [])
    Script.ending (.error failure)

def treeScript (x : Expander) (a : Artifact) : Script (List TreeFile) :=
  expansionScript (x.members a) (.treeUnregistered a.execPath)

def filesetScript (x : Expander) (a : Artifact) : Script (List Link) :=
  expansionScript (x.links a) (.filesetUnregistered a.execPath)

/-- The check of a plain runfile tells why it fails, if it is not the provider that fails. -/
def checkScript (metadata : Metadata) (a : Artifact) : Script Unit := do
  let type ← Script.ending (metadata (.artifact a))
  unless accepts type do
    Script.telling [.inputRejected (.artifact a) type]
    Script.ending (.error (.forbiddenInput a.execPath))

def inputScript (x : Expander) (a : Artifact) : Script Nat :=
  match a.kind with
  | .tree => do
    let members ← treeScript x a
    Script.staging (members.map fun f => (f.execPath, .treeFile f))
  | .file => Script.staging [(a.execPath, .artifact a)]
  | .fileset => Script.ending (.error (.filesetAsInput a.execPath))
  | .other label => Script.ending (.error (.unknownKind label))

def runfileScript (e : Engine) (metadata : Metadata) (x : Expander) (location : Path) :
    Option Artifact → Script Nat
  | none => Script.staging [(location, .empty)]
  | some a =>
    match a.kind with
    | .tree => do
      let members ← treeScript x a
      Script.staging (members.map fun f => (location / f.relative, .treeFile f))
    | .fileset => do
      let links ← filesetScript x a
      e.resolver.script links location
    | .file => do
      if e.strict then checkScript metadata a
      Script.staging [(location, .artifact a)]
    | .other label => Script.ending (.error (.unknownKind label))

def belowScript (e : Engine) (metadata : Metadata) (x : Expander) (root : Path)
    (entry : Path × Option Artifact) : Script Nat := do
  let relative ← Script.ending (Spelling.ofPath entry.1).relative
  e.runfileScript metadata x (root / relative) entry.2

def rootScript (e : Engine) (metadata : Metadata) (x : Expander)
    (root : Path × Table Path (Option Artifact)) : Script Nat := do
  let path ← Script.ending (Spelling.ofPath root.1).relative
  Script.sum (e.belowScript metadata x path) root.2.entries

def mountScript (e : Engine) (mount : Artifact × List Link) : Script Nat :=
  if mount.1.isFileset then e.resolver.script mount.2 mount.1.execPath
  else Script.ending (.error (.notFileset mount.1.execPath))

/-- The three phases, and what each of them counts. -/
def script (e : Engine) (action : Action) (x : Expander) (metadata : Metadata) :
    Script (Nat × Nat × Nat) := do
  Script.entering .inputs
  let direct ← Script.sum (inputScript x) action.inputs
  Script.entering .runfiles
  let runfiles ← Script.sum (e.rootScript metadata x) action.runfiles.entries
  Script.entering .filesets
  let filesets ← Script.sum e.mountScript action.filesets.entries
  return (direct, runfiles, filesets)

/-! ## The parts are played -/

theorem play_expansionScript {α : Type} (known : Except Failure α) (missing : Event)
    (base : Option Spelling) :
    (expansionScript known missing).play base = expand known missing := by
  unfold expansionScript expand
  cases known with
  | ok a => rfl
  | error failure =>
    dsimp only
    rw [Script.play_bind, Script.play_telling]
    cases failure.isInternal with
    | true => rfl
    | false =>
      funext p
      refine congrArg (Prod.mk _) ?_
      exact congrArg (Progress.mk p.ledger) (List.append_nil p.log)

theorem play_treeScript (x : Expander) (a : Artifact) (base : Option Spelling) :
    (treeScript x a).play base = expandTree x a :=
  play_expansionScript _ _ base

theorem play_filesetScript (x : Expander) (a : Artifact) (base : Option Spelling) :
    (filesetScript x a).play base = expandFileset x a :=
  play_expansionScript _ _ base

theorem play_checkScript (metadata : Metadata) (a : Artifact) (base : Option Spelling) :
    (checkScript metadata a).play base = checkFile metadata a := by
  unfold checkScript checkFile
  rw [Script.play_bind, Script.play_ending]
  congr 1
  funext type
  cases accepts type <;> rfl

theorem play_inputScript (x : Expander) (a : Artifact) (base : Option Spelling) :
    (inputScript x a).play base = stageInput x base a := by
  unfold inputScript stageInput
  cases a.kind with
  | tree => simp only [Script.play_bind, play_treeScript, Script.play_staging]
  | file => exact Script.play_staging base _
  | fileset => rfl
  | other label => rfl

theorem play_runfileScript (e : Engine) (metadata : Metadata) (x : Expander)
    (location : Path) (entry : Option Artifact) (base : Option Spelling) :
    (e.runfileScript metadata x location entry).play base =
      e.stageRunfile metadata x base location entry := by
  unfold runfileScript stageRunfile
  cases entry with
  | none => exact Script.play_staging base _
  | some a =>
    simp only
    cases a.kind with
    | tree => simp only [Script.play_bind, play_treeScript, Script.play_staging]
    | fileset => simp only [Script.play_bind, play_filesetScript, Resolver.play_script]
    | file =>
      cases e.strict with
      | true =>
        simp only [if_true, Script.play_bind, play_checkScript, Script.play_staging]
      | false => exact Script.play_staging base _
    | other label => rfl

theorem play_inputs (x : Expander) (inputs : List Artifact) (base : Option Spelling) :
    (Script.sum (inputScript x) inputs).play base = stageInputs x base inputs := by
  induction inputs with
  | nil => rfl
  | cons a rest ih => rw [Script.play_sum_cons, play_inputScript, ih]; rfl

theorem play_below (e : Engine) (metadata : Metadata) (x : Expander) (root : Path)
    (entries : List (Path × Option Artifact)) (base : Option Spelling) :
    (Script.sum (e.belowScript metadata x root) entries).play base =
      e.stageRunfilesBelow metadata x base root entries := by
  induction entries with
  | nil => rfl
  | cons entry rest ih =>
    obtain ⟨relative, a⟩ := entry
    rw [Script.play_sum_cons, ih]
    simp only [belowScript, Script.play_bind, Script.play_ending, play_runfileScript, bind_assoc]
    rfl

theorem play_roots (e : Engine) (metadata : Metadata) (x : Expander)
    (roots : List (Path × Table Path (Option Artifact))) (base : Option Spelling) :
    (Script.sum (e.rootScript metadata x) roots).play base =
      e.stageRoots metadata x base roots := by
  induction roots with
  | nil => rfl
  | cons root rest ih =>
    obtain ⟨path, entries⟩ := root
    rw [Script.play_sum_cons, ih]
    simp only [rootScript, Script.play_bind, Script.play_ending, play_below, bind_assoc]
    rfl

theorem play_mounts (e : Engine) (mounts : List (Artifact × List Link))
    (base : Option Spelling) :
    (Script.sum e.mountScript mounts).play base = e.stageMounts base mounts := by
  induction mounts with
  | nil => rfl
  | cons mount rest ih =>
    obtain ⟨a, links⟩ := mount
    rw [Script.play_sum_cons, ih]
    rw [mountScript, stageMounts]
    cases a.isFileset with
    | false => rfl
    | true =>
      rw [if_pos rfl, Resolver.play_script]
      rfl

def start (e : Engine) : Progress := { ledger := { mode := e.conflictMode } }

/-- A call plays its script beneath the directory it has accepted, and then tells what it
has counted. -/
theorem run_eq (e : Engine) (action : Action) (x : Expander) (base : Option Spelling)
    (metadata : Metadata) :
    e.run action x base metadata =
      match Path.baseDirectory base with
      | .error failure => (.error failure, e.start)
      | .ok dir =>
        match (e.script action x metadata).play (some (.ofPath dir)) e.start with
        | (.error failure, p) => (.error failure, p)
        | (.ok (direct, runfiles, filesets), p) =>
          (.ok (), { p with log := p.log ++ [.mapped direct runfiles filesets
            p.ledger.entries.size p.ledger.conflicts.length] }) := by
  unfold run
  cases Path.baseDirectory base with
  | error failure => rfl
  | ok dir =>
    have hs : e.stageAction action x dir metadata =
        ((e.script action x metadata).play (some (.ofPath dir)) >>= fun counts =>
          get >>= fun p => Staging.tell [.mapped counts.1 counts.2.1 counts.2.2
            p.ledger.entries.size p.ledger.conflicts.length]) := by
      simp only [script, stageAction, Script.play_bind, Script.play_entering, play_inputs,
        play_roots, play_mounts, Script.play_pure, bind_assoc, pure_bind]
      rfl
    show e.stageAction action x dir metadata e.start = _
    rw [hs, Script.staging_bind]
    dsimp only
    rcases (e.script action x metadata).play (some (.ofPath dir)) e.start with
      ⟨_ | counts, p⟩ <;> rfl

/-- The ledger of a call is the one that the steps of its script leave behind. -/
theorem run_ledger {e : Engine} {action : Action} {x : Expander} {base : Option Spelling}
    {metadata : Metadata} {dir : Path} (hb : Path.baseDirectory base = .ok dir) :
    (e.run action x base metadata).2.ledger = (Script.Step.runAll (some (.ofPath dir))
      (e.script action x metadata).steps e.start).2.ledger := by
  rw [run_eq, hb]
  dsimp only [Script.play]
  rcases Script.Step.runAll (some (.ofPath dir)) (e.script action x metadata).steps e.start
    with ⟨_ | _, p⟩
  · rfl
  · cases (e.script action x metadata).outcome <;> rfl

/-- What a call returns and tells, by what its script counts and how its steps went. -/
def conclude (counted : Except Failure (Nat × Nat × Nat)) :
    Except Failure Unit × Progress → Except Failure (List (Path × Input)) × List Event
  | (.error failure, p) => (.error failure, p.log)
  | (.ok (), p) =>
    match counted with
    | .error failure => (.error failure, p.log)
    | .ok (direct, runfiles, filesets) =>
      (.ok p.ledger.entries.sorted, p.log ++ [.mapped direct runfiles filesets
        p.ledger.entries.size p.ledger.conflicts.length])

/-- What a call returns and tells is read off the steps of its script and what it counts. -/
theorem map_eq_conclude {e : Engine} {action : Action} {x : Expander} {base : Option Spelling}
    {metadata : Metadata} {dir : Path} (hb : Path.baseDirectory base = .ok dir) :
    e.map action x base metadata = conclude (e.script action x metadata).outcome
      (Script.Step.runAll (some (.ofPath dir)) (e.script action x metadata).steps e.start) := by
  unfold map
  rw [run_eq, hb]
  dsimp only [Script.play]
  rcases Script.Step.runAll (some (.ofPath dir)) (e.script action x metadata).steps e.start
    with ⟨_ | _, p⟩
  · rfl
  · cases (e.script action x metadata).outcome <;> rfl

/-- A call fails with the first step that fails, or else as its script does. -/
theorem map_outcome {e : Engine} {action : Action} {x : Expander} {base : Option Spelling}
    {metadata : Metadata} {dir : Path} (hb : Path.baseDirectory base = .ok dir) :
    let ran := Script.Step.runAll (some (.ofPath dir)) (e.script action x metadata).steps e.start
    (e.map action x base metadata).1 = ran.1.bind fun _ =>
      (e.script action x metadata).outcome.map fun _ => ran.2.ledger.entries.sorted := by
  intro ran
  rw [map_eq_conclude hb, show Script.Step.runAll _ _ _ = ran from rfl]
  rcases ran with ⟨_ | _, p⟩
  · rfl
  · unfold conclude
    cases (e.script action x metadata).outcome <;> rfl

/-- What is returned is what the ledger holds, in the order of paths. -/
theorem result_of_map {e : Engine} {action : Action} {x : Expander} {base : Option Spelling}
    {metadata : Metadata} {result : List (Path × Input)}
    (h : (e.map action x base metadata).1 = .ok result) :
    result = (e.run action x base metadata).2.ledger.entries.sorted := by
  unfold map at h
  rcases hr : e.run action x base metadata with ⟨_ | _, p⟩ <;> simp only [hr, Except.map] at h
  · cases h
  · exact (Except.ok.inj h).symm

/-- A call that plays its script to the end returns what is in the ledger then. -/
theorem map_of_play {e : Engine} {action : Action} {x : Expander} {base : Option Spelling}
    {metadata : Metadata} {dir : Path} {counts : Nat × Nat × Nat} {p : Progress}
    (hb : Path.baseDirectory base = .ok dir)
    (hp : (e.script action x metadata).play (some (.ofPath dir)) e.start = (.ok counts, p)) :
    e.map action x base metadata =
      (.ok p.ledger.entries.sorted, p.log ++ [.mapped counts.1 counts.2.1 counts.2.2
        p.ledger.entries.size p.ledger.conflicts.length]) := by
  unfold map
  rw [run_eq, hb]
  simp only [hp, Except.map]

/-- A call returns a mapping exactly if its base directory is accepted and its script is played to
the end. -/
theorem map_eq_ok_iff {e : Engine} {action : Action} {x : Expander} {base : Option Spelling}
    {metadata : Metadata} {result : List (Path × Input)} :
    (e.map action x base metadata).1 = .ok result ↔
      ∃ dir counts p, Path.baseDirectory base = .ok dir ∧
        (e.script action x metadata).play (some (.ofPath dir)) e.start = (.ok counts, p) ∧
        result = p.ledger.entries.sorted := by
  constructor
  · intro h
    unfold map at h
    rw [run_eq] at h
    cases hb : Path.baseDirectory base with
    | error failure => simp [hb, Except.map] at h
    | ok dir =>
      rcases hp : (e.script action x metadata).play (some (.ofPath dir)) e.start with
        ⟨_ | counts, p⟩ <;> simp only [hb, hp, Except.map] at h
      · cases h
      · exact ⟨dir, counts, p, rfl, hp, (Except.ok.inj h).symm⟩
  · rintro ⟨dir, counts, p, hb, hp, rfl⟩
    rw [map_of_play hb hp]

end Engine

end InputStaging
