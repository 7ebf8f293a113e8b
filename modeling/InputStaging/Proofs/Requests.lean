import InputStaging.Proofs.History

/-!
# Requests

What a call is asked to stage, read off the declared action alone: a location and an input
for each direct input, each member of a tree, each runfile and each entry of a fileset, in
order. The script of a call asks for nothing else, if it comes to its end, and counts each request
once.
-/

namespace InputStaging

/-- The inputs that are asked for at a destination beneath a directory, in order. -/
def inputsAt (dir d : Path) (rs : List (Path × Input)) : List Input :=
  (rs.filter fun w => (dir / w.1).normalize = d).map (·.2)

section
variable {dir d : Path}

theorem inputsAt_append (rs rs' : List (Path × Input)) :
    inputsAt dir d (rs ++ rs') = inputsAt dir d rs ++ inputsAt dir d rs' := by
  simp [inputsAt]

theorem inputsAt_flatMap {ι : Type} (is : List ι) (f : ι → List (Path × Input)) :
    inputsAt dir d (is.flatMap f) = (is.map fun i => inputsAt dir d (f i)).flatten := by
  induction is with
  | nil => rfl
  | cons i rest ih => simp [inputsAt_append, ih]

/-- Something is asked for at a destination exactly if some location leads there. -/
theorem inputsAt_ne_nil_iff {rs : List (Path × Input)} :
    inputsAt dir d rs ≠ [] ↔ ∃ w ∈ rs, (dir / w.1).normalize = d := by
  simp [inputsAt]

end

namespace Write

/-- What is written when requests are carried out phase by phase. -/
def ofParts (dir : Path) (parts : List (Phase × List (Path × Input))) : List Write :=
  parts.flatMap fun part => part.2.map (Write.of dir part.1)

/-- No write is in another phase than those that were listed. -/
theorem phase_mem_of_ofParts {dir : Path} {parts : List (Phase × List (Path × Input))} {a : Write}
    (h : a ∈ ofParts dir parts) : a.phase ∈ parts.map Prod.fst := by
  obtain ⟨part, hpart, ha⟩ := List.mem_flatMap.mp h
  obtain ⟨w, -, rfl⟩ := List.mem_map.mp ha
  exact List.mem_map_of_mem hpart

/-- Of all that is asked for at a destination, in whatever phases, the last is there. -/
theorem last?_ofParts (dir d : Path) (parts : List (Phase × List (Path × Input))) :
    (last? d (ofParts dir parts)).map (·.value) =
      (inputsAt dir d (parts.flatMap (·.2))).getLast? := by
  have hits : ((ofParts dir parts).filter (·.path = d)).map (·.value) =
      inputsAt dir d (parts.flatMap (·.2)) := by
    induction parts with
    | nil => rfl
    | cons part rest ih =>
      unfold ofParts at *
      rw [List.flatMap_cons, List.filter_append, List.map_append, ih, List.flatMap_cons,
        inputsAt_append, inputsAt, List.filter_map, List.map_map]
      rfl
  rw [last?, ← hits, List.getLast?_map]

end Write

namespace Resolver

/-- The entries of a fileset, or none where it cannot be read. -/
def requests (r : Resolver) (links : List Link) (mount : Path) : List (Path × Input) :=
  match (r.manifest links (.ofPath mount)).1 with
  | .ok m => r.writes m
  | .error _ => []

/-- The same at a mount in a spelling of its own. -/
def requestsAt (r : Resolver) (links : List Link) (mount : Spelling) : List (Path × Input) :=
  match (r.manifest links mount).1 with
  | .ok m => r.writes m
  | .error _ => []

end Resolver

namespace Engine

/-- A file stands at its own path, and so does every member of a tree. -/
def inputRequests (x : Expander) (a : Artifact) : List (Path × Input) :=
  match a.kind with
  | .file => [(a.execPath, .artifact a)]
  | .tree => ((x.members? a).getD []).map fun f => (f.execPath, .treeFile f)
  | .fileset | .other _ => []

def runfileRequests (e : Engine) (x : Expander) (location : Path) :
    Option Artifact → List (Path × Input)
  | none => [(location, .empty)]
  | some a =>
    match a.kind with
    | .file => [(location, .artifact a)]
    | .tree => ((x.members? a).getD []).map fun f => (location / f.relative, .treeFile f)
    | .fileset => e.resolver.requests ((x.links? a).getD []) location
    | .other _ => []

/-- What an action asks for, phase by phase. -/
def parts (e : Engine) (action : Action) (x : Expander) : List (Phase × List (Path × Input)) :=
  [(.inputs, action.inputs.flatMap (inputRequests x)),
   (.runfiles, action.runfiles.entries.flatMap fun root =>
      root.2.entries.flatMap fun entry => e.runfileRequests x (root.1 / entry.1) entry.2),
   (.filesets, action.filesets.entries.flatMap fun mount =>
      e.resolver.requests mount.2 mount.1.execPath)]

def requests (e : Engine) (action : Action) (x : Expander) : List (Path × Input) :=
  (e.parts action x).flatMap (·.2)

end Engine

namespace Script

variable {α β : Type}

/-- If the script comes to its end, it asks for this, and stays in its phase. -/
def Asks (s : Script α) (ws : List (Path × Input)) : Prop :=
  ∀ a, s.outcome = .ok a → Step.asks s.steps = ws ∧ ∀ phase, .enter phase ∉ s.steps

/-- The second script decides the result, once the first has one. -/
theorem bind_outcome {s : Script α} {f : α → Script β} {b : β} :
    (s >>= f).outcome = .ok b ↔ ∃ a, s.outcome = .ok a ∧ (f a).outcome = .ok b := by
  show (s.bind f).outcome = _ ↔ _
  unfold bind
  cases s.outcome <;> simp

/-- Steps of the second come after those of the first. -/
theorem bind_steps {s : Script α} {f : α → Script β} {a : α} (h : s.outcome = .ok a) :
    (s >>= f).steps = s.steps ++ (f a).steps := by
  show (s.bind f).steps = _
  simp only [bind, h]

/-- What two scripts ask for is asked for in their order. -/
theorem Asks.bind {s : Script α} {f : α → Script β} {ws ws' : List (Path × Input)}
    (hs : s.Asks ws) (hf : ∀ a, s.outcome = .ok a → (f a).Asks ws') :
    (s >>= f).Asks (ws ++ ws') := by
  intro b hb
  obtain ⟨a, ha, hb⟩ := bind_outcome.mp hb
  obtain ⟨hws, hstay⟩ := hs a ha
  obtain ⟨hws', hstay'⟩ := hf a ha b hb
  rw [bind_steps ha, Step.asks_append, hws, hws']
  refine ⟨rfl, fun phase hm => ?_⟩
  rcases List.mem_append.mp hm with hm | hm
  · exact hstay phase hm
  · exact hstay' phase hm

/-- What comes first asks for nothing, but may decide what comes then. -/
theorem Asks.after {s : Script α} {f : α → Script β} {ws : List (Path × Input)}
    (hs : s.Asks []) (hf : ∀ a, s.outcome = .ok a → (f a).Asks ws) : (s >>= f).Asks ws :=
  hs.bind hf

theorem asks_pure (a : α) : (pure a : Script α).Asks [] := fun _ _ => ⟨rfl, by simp [pure]⟩

theorem asks_ending (x : Except Failure α) : (ending x).Asks [] :=
  fun _ _ => ⟨rfl, by simp [ending]⟩

theorem asks_telling (events : List Event) : (telling events).Asks [] :=
  fun _ _ => ⟨rfl, by simp [telling]⟩

theorem asks_staging (ws : List (Path × Input)) : (staging ws).Asks ws := by
  intro n hn
  refine ⟨?_, by simp [staging]⟩
  show Step.asks (ws.map fun w => .stage w.1 w.2) = ws
  clear hn
  induction ws with
  | nil => rfl
  | cons w ws ih => rw [List.map_cons, Step.asks, ih]

/-- If the script comes to its end, it asks for this, and has counted it. -/
structure Tallies (s : Script Nat) (ws : List (Path × Input)) : Prop where
  asks : s.Asks ws
  counts : ∀ n, s.outcome = .ok n → n = ws.length

/-- Writes count themselves. -/
theorem tallies_staging (ws : List (Path × Input)) : (staging ws).Tallies ws where
  asks := asks_staging ws
  counts _ hn := (Except.ok.inj hn).symm

theorem tallies_refusing (failure : Failure) (ws : List (Path × Input)) :
    (ending (.error failure) : Script Nat).Tallies ws where
  asks _ h := nomatch h
  counts _ h := nomatch h

/-- What comes first neither asks for anything nor is counted, but may decide what comes then. -/
theorem Tallies.after {s : Script α} {f : α → Script Nat} {ws : List (Path × Input)}
    (hs : s.Asks []) (hf : ∀ a, s.outcome = .ok a → (f a).Tallies ws) : (s >>= f).Tallies ws where
  asks := hs.after fun a ha => (hf a ha).asks
  counts n hn := by
    obtain ⟨a, ha, hn⟩ := bind_outcome.mp hn
    exact (hf a ha).counts n hn

/-- By induction on the items: the sum asks for what each of them does, and counts it all. -/
theorem tallies_sum {ι : Type} {f : ι → Script Nat} {g : ι → List (Path × Input)} {is : List ι}
    (h : ∀ i ∈ is, (f i).Tallies (g i)) : (sum f is).Tallies (is.flatMap g) := by
  induction is with
  | nil => exact tallies_staging []
  | cons i rest ih =>
    have hfirst := h i List.mem_cons_self
    have hrest := ih fun j hj => h j (List.mem_cons_of_mem _ hj)
    rw [List.flatMap_cons]
    constructor
    · refine hfirst.asks.bind fun n _ => ?_
      simpa using hrest.asks.bind fun m _ => asks_pure (n + m)
    · intro total htotal
      obtain ⟨n, hn, hadd⟩ := bind_outcome.mp htotal
      obtain ⟨m, hm, hsum⟩ := bind_outcome.mp hadd
      obtain rfl := Except.ok.inj hsum
      have hcount : n = (g i).length := hfirst.counts n hn
      have hcounts : m = (rest.flatMap g).length := hrest.counts m hm
      rw [List.length_append, hcount, hcounts]

end Script

namespace Resolver

/-- A fileset asks for what its manifest holds. -/
theorem tallies_scriptAt (r : Resolver) (links : List Link) (mount : Spelling) :
    (r.scriptAt links mount).Tallies (r.requestsAt links mount) := by
  unfold scriptAt
  refine .after (Script.asks_telling _) fun _ _ => .after (Script.asks_ending _) fun m hm => ?_
  have hr : r.requestsAt links mount = r.writes m := by
    rw [requestsAt, show (r.manifest links mount).1 = .ok m from hm]
  rw [hr]
  exact Script.tallies_staging _

theorem tallies_script (r : Resolver) (links : List Link) (mount : Path) :
    (r.script links mount).Tallies (r.requests links mount) :=
  r.tallies_scriptAt links (.ofPath mount)

end Resolver

namespace Engine

variable {e : Engine} {x : Expander} {metadata : Metadata}

/-- To look something up is no request for a write. -/
theorem asks_expansionScript {α : Type} (known : Except Failure α) (missing : Event) :
    (expansionScript known missing).Asks [] := by
  cases known with
  | ok a => exact Script.asks_pure a
  | error failure => exact (Script.asks_telling _).after fun _ _ => Script.asks_ending _

theorem expansionScript_outcome {α : Type} {known : Except Failure α} {missing : Event} {a : α}
    (h : (expansionScript known missing).outcome = .ok a) : known.toOption = some a := by
  cases known with
  | ok b => exact congrArg some (Except.ok.inj h)
  | error failure => cases h

/-- What the script of a tree comes to is what the expander knows of its members. -/
theorem treeScript_outcome {a : Artifact} {members : List TreeFile}
    (h : (treeScript x a).outcome = .ok members) : x.members? a = some members :=
  expansionScript_outcome h

theorem filesetScript_outcome {a : Artifact} {links : List Link}
    (h : (filesetScript x a).outcome = .ok links) : x.links? a = some links :=
  expansionScript_outcome h

/-- To check a file is none, either. -/
theorem asks_checkScript (metadata : Metadata) (a : Artifact) :
    (checkScript metadata a).Asks [] := by
  unfold checkScript
  refine (Script.asks_ending _).after fun type _ => ?_
  cases accepts type with
  | true => exact Script.asks_pure ()
  | false => exact (Script.asks_telling _).after fun _ _ => Script.asks_ending _

/-- An input asks for itself, or for all members of the tree that it is. -/
theorem tallies_inputScript (x : Expander) (a : Artifact) :
    (inputScript x a).Tallies (inputRequests x a) := by
  unfold inputScript inputRequests
  cases a.kind with
  | file => exact Script.tallies_staging _
  | tree =>
    refine .after (asks_expansionScript _ _) fun members hm => ?_
    rw [treeScript_outcome hm]
    exact Script.tallies_staging _
  | fileset => exact Script.tallies_refusing _ _
  | other label => exact Script.tallies_refusing _ _

/-- A runfile asks for what its kind has it stand for. -/
theorem tallies_runfileScript (location : Path) (entry : Option Artifact) :
    (e.runfileScript metadata x location entry).Tallies (e.runfileRequests x location entry) := by
  unfold runfileScript runfileRequests
  cases entry with
  | none => exact Script.tallies_staging _
  | some a =>
    dsimp only
    cases a.kind with
    | file =>
      cases e.strict with
      | true => exact .after (asks_checkScript metadata a) fun _ _ => Script.tallies_staging _
      | false => exact Script.tallies_staging _
    | tree =>
      refine .after (asks_expansionScript _ _) fun members hm => ?_
      rw [treeScript_outcome hm]
      exact Script.tallies_staging _
    | fileset =>
      refine .after (asks_expansionScript _ _) fun links hl => ?_
      rw [filesetScript_outcome hl]
      exact e.resolver.tallies_script links location
    | other label => exact Script.tallies_refusing _ _

/-- A root asks for what is beneath it, entry by entry. -/
theorem tallies_rootScript (root : Path × Table Path (Option Artifact)) :
    (e.rootScript metadata x root).Tallies
      (root.2.entries.flatMap fun entry => e.runfileRequests x (root.1 / entry.1) entry.2) := by
  unfold rootScript
  refine .after (Script.asks_ending _) fun path hp => Script.tallies_sum fun entry _ => ?_
  obtain rfl : path = root.1 := (Spelling.relative_eq_ok_iff.mp hp).2.2.2
  unfold belowScript
  refine .after (Script.asks_ending _) fun relative hr => ?_
  obtain rfl : relative = entry.1 := (Spelling.relative_eq_ok_iff.mp hr).2.2.2
  exact tallies_runfileScript _ _

theorem tallies_mountScript (mount : Artifact × List Link) :
    (e.mountScript mount).Tallies (e.resolver.requests mount.2 mount.1.execPath) := by
  unfold mountScript
  cases mount.1.isFileset with
  | true => exact e.resolver.tallies_script mount.2 mount.1.execPath
  | false => exact Script.tallies_refusing _ _

/-! ## The whole call -/

theorem tallies_inputs (x : Expander) (inputs : List Artifact) :
    (Script.sum (inputScript x) inputs).Tallies (inputs.flatMap (inputRequests x)) :=
  Script.tallies_sum fun a _ => tallies_inputScript x a

theorem tallies_roots (runfiles : Runfiles) :
    (Script.sum (e.rootScript metadata x) runfiles.entries).Tallies
      (runfiles.entries.flatMap fun root =>
        root.2.entries.flatMap fun entry => e.runfileRequests x (root.1 / entry.1) entry.2) :=
  Script.tallies_sum fun root _ => tallies_rootScript root

theorem tallies_mounts (filesets : Filesets) :
    (Script.sum e.mountScript filesets.entries).Tallies
      (filesets.entries.flatMap fun mount => e.resolver.requests mount.2 mount.1.execPath) :=
  Script.tallies_sum fun mount _ => tallies_mountScript mount

theorem phase_outcome {β : Type} {phase : Phase} {s : Script Nat} {f : Nat → Script β} {b : β} :
    (Script.entering phase >>= fun _ => s >>= f).outcome = .ok b ↔
      ∃ n, s.outcome = .ok n ∧ (f n).outcome = .ok b := by
  rw [Script.bind_outcome]
  constructor
  · rintro ⟨_, -, h⟩
    exact Script.bind_outcome.mp h
  · exact fun h => ⟨(), rfl, Script.bind_outcome.mpr h⟩

theorem phase_steps {β : Type} {phase : Phase} {s : Script Nat} {f : Nat → Script β} {n : Nat}
    (h : s.outcome = .ok n) :
    (Script.entering phase >>= fun _ => s >>= f).steps =
      .enter phase :: (s.steps ++ (f n).steps) := by
  rw [Script.bind_steps (a := ()) rfl, Script.bind_steps h]
  rfl

/-- A call comes to the end of its script exactly if each of its phases does. -/
theorem script_outcome {action : Action} {counts : Nat × Nat × Nat} :
    (e.script action x metadata).outcome = .ok counts ↔
      (Script.sum (inputScript x) action.inputs).outcome = .ok counts.1 ∧
      (Script.sum (e.rootScript metadata x) action.runfiles.entries).outcome = .ok counts.2.1 ∧
      (Script.sum e.mountScript action.filesets.entries).outcome = .ok counts.2.2 := by
  unfold script
  simp only [phase_outcome]
  constructor
  · rintro ⟨direct, hd, runfiles, hr, filesets, hf, h⟩
    obtain rfl := Except.ok.inj h
    exact ⟨hd, hr, hf⟩
  · rintro ⟨hd, hr, hf⟩
    exact ⟨_, hd, _, hr, _, hf, rfl⟩

/-- The three phases one after the other, each entered before its steps. -/
theorem script_steps {action : Action} {counts : Nat × Nat × Nat}
    (h : (e.script action x metadata).outcome = .ok counts) :
    (e.script action x metadata).steps =
      .enter .inputs :: ((Script.sum (inputScript x) action.inputs).steps ++
        .enter .runfiles :: ((Script.sum (e.rootScript metadata x) action.runfiles.entries).steps ++
          .enter .filesets :: (Script.sum e.mountScript action.filesets.entries).steps)) := by
  obtain ⟨hd, hr, hf⟩ := script_outcome.mp h
  unfold script
  rw [phase_steps hd, phase_steps hr, phase_steps hf]
  simp [pure]

/-- What the steps of a call ask for is known without taking them. -/
theorem asks_script_steps {action : Action} {counts : Nat × Nat × Nat}
    (h : (e.script action x metadata).outcome = .ok counts) :
    Script.Step.asks (e.script action x metadata).steps = e.requests action x := by
  obtain ⟨hd, hr, hf⟩ := script_outcome.mp h
  rw [script_steps h]
  simp only [Script.Step.asks, Script.Step.asks_append,
    ((tallies_inputs x action.inputs).asks _ hd).1, ((tallies_roots action.runfiles).asks _ hr).1,
    ((tallies_mounts action.filesets).asks _ hf).1]
  change _ = (e.parts action x).flatMap (·.2)
  simp [parts]

/-- What a call writes, it writes in the phase that asked for it. -/
theorem history_script {action : Action} {counts : Nat × Nat × Nat}
    (h : (e.script action x metadata).outcome = .ok counts) (dir : Path) (phase : Phase) :
    Script.Step.history dir phase (e.script action x metadata).steps =
      Write.ofParts dir (e.parts action x) := by
  obtain ⟨hd, hr, hf⟩ := script_outcome.mp h
  obtain ⟨hdirect, hstay⟩ := (tallies_inputs x action.inputs).asks _ hd
  obtain ⟨hrunfiles, hstay'⟩ := (tallies_roots action.runfiles).asks _ hr
  obtain ⟨hfilesets, hstay''⟩ := (tallies_mounts action.filesets).asks _ hf
  -- Nothing follows the last phase, so that what it writes has to be given an end first.
  have hlast := Script.Step.history_append hstay'' dir .filesets []
  rw [List.append_nil] at hlast
  rw [script_steps h]
  simp only [Script.Step.history, Script.Step.writes, Script.Step.next, List.nil_append,
    Script.Step.history_append hstay, Script.Step.history_append hstay', hlast, hdirect,
    hrunfiles, hfilesets]
  simp [parts, Write.ofParts]

end Engine

end InputStaging
