import InputStaging.Proofs.Fileset.Reference
import InputStaging.Proofs.History

/-!
# Recorded conflicts

A conflict is met by a write, and by nothing else: no fileset, no expansion and no check of a
runfile tells of one or fails because of one, unless a collaborator gives up with it. So the
conflicts of a call can be read off its log.
-/

namespace InputStaging

/-- An input that another one replaces, or would have replaced. -/
structure Conflict where
  path : Path
  previous : Input
  replacement : Input
  deriving DecidableEq

namespace Conflict

def failure (c : Conflict) : Failure := .conflict c.path c.previous c.replacement

def ofFailure? : Failure → Option Conflict
  | .conflict path previous replacement => some ⟨path, previous, replacement⟩
  | _ => none

def ofEvent? : Event → Option Conflict
  | .inputReplaced _ _ previous replacement path => some ⟨path, previous, replacement⟩
  | _ => none

/-- The conflicts that a log tells of, in order. -/
def told (log : List Event) : List Conflict := log.filterMap ofEvent?

/-- A log tells of the conflicts of its parts, in their order. -/
theorem told_append (log log' : List Event) : told (log ++ log') = told log ++ told log' :=
  List.filterMap_append

theorem told_snoc {ev : Event} (h : ofEvent? ev = none) (log : List Event) :
    told (log ++ [ev]) = told log := by
  simp [told, h]

theorem told_eq_nil_iff {log : List Event} : told log = [] ↔ ∀ ev ∈ log, ofEvent? ev = none :=
  List.filterMap_eq_nil_iff

end Conflict

/-- What a collaborator of a call fails with, in its own words. -/
inductive Failure.Foreign (x : Expander) (metadata : Metadata) (failure : Failure) : Prop where
  | members {a : Artifact} (h : x.members a = .error failure)
  | links {a : Artifact} (h : x.links a = .error failure)
  | metadata {v : Input} (h : metadata v = .error failure)

/-- A location is refused for a fault of its own. -/
theorem Spelling.relative_eq_error {l : Spelling} {failure : Failure}
    (h : l.relative = .error failure) : ∃ fault, failure = .location l.text fault := by
  unfold relative at h
  repeat' split at h
  all_goals cases h
  all_goals exact ⟨_, rfl⟩

namespace Path

/-- So is a base directory. -/
theorem baseDirectory_eq_error {base : Option Spelling} {failure : Failure}
    (h : baseDirectory base = .error failure) :
    ∃ text fault, failure = .location text fault := by
  cases base with
  | none => cases h
  | some l =>
    simp only [baseDirectory] at h
    cases hr : l.relative with
    | error e =>
      obtain ⟨fault, rfl⟩ := Spelling.relative_eq_error hr
      simp only [hr, bind, Except.bind] at h
      exact ⟨_, fault, (Except.error.inj h).symm⟩
    | ok p =>
      simp only [hr, bind, Except.bind, pure, Except.pure] at h
      split at h
      · exact ⟨_, _, (Except.error.inj h).symm⟩
      · cases h

/-- So is a destination, whether for the location or for the base directory. -/
theorem destination_eq_error {base : Option Spelling} {l : Spelling} {failure : Failure}
    (h : destination base l = .error failure) :
    ∃ text fault, failure = .location text fault := by
  unfold destination at h
  cases hr : l.relative with
  | error e =>
    obtain ⟨fault, rfl⟩ := Spelling.relative_eq_error hr
    simp only [hr, bind, Except.bind] at h
    exact ⟨_, fault, (Except.error.inj h).symm⟩
  | ok p =>
    simp only [hr, bind, Except.bind, pure, Except.pure] at h
    split at h
    · exact ⟨_, _, (Except.error.inj h).symm⟩
    · cases hb : baseDirectory base with
      | error e =>
        simp only [hb] at h
        exact baseDirectory_eq_error (hb.trans h)
      | ok root =>
        simp only [hb] at h
        split at h
        · exact ⟨_, _, (Except.error.inj h).symm⟩
        · cases h

end Path

namespace Script

variable {α β : Type} {x : Expander} {metadata : Metadata}

/-- The script has nothing to do with conflicts. What a collaborator fails with is its own
affair. -/
structure Neutral (x : Expander) (metadata : Metadata) (s : Script α) : Prop where
  tells : ∀ events, .tell events ∈ s.steps → Conflict.told events = []
  fails : ∀ failure, s.outcome = .error failure →
    Conflict.ofFailure? failure = none ∨ failure.Foreign x metadata

/-- Two scripts that have nothing to do with conflicts have none to do with them together. -/
theorem Neutral.bind {s : Script α} {f : α → Script β} (hs : s.Neutral x metadata)
    (hf : ∀ a, (f a).Neutral x metadata) : (s >>= f).Neutral x metadata := by
  show (s.bind f).Neutral x metadata
  unfold Script.bind
  cases ho : s.outcome with
  | error failure =>
    refine ⟨hs.tells, fun failure' h => ?_⟩
    exact hs.fails failure' (ho.trans (congrArg _ (Except.error.inj h)))
  | ok a =>
    refine ⟨fun events hm => ?_, (hf a).fails⟩
    rcases List.mem_append.mp hm with hm | hm
    · exact hs.tells events hm
    · exact (hf a).tells events hm

theorem neutral_pure (a : α) : (pure a : Script α).Neutral x metadata :=
  ⟨by simp [pure], fun _ h => nomatch h⟩

theorem neutral_refusing {failure : Failure} (h : Conflict.ofFailure? failure = none) :
    (ending (.error failure) : Script α).Neutral x metadata :=
  ⟨by simp [ending], fun failure' hf => .inl (Except.error.inj hf ▸ h)⟩

theorem neutral_entering (phase : Phase) : (entering phase).Neutral x metadata :=
  ⟨by simp [entering], fun _ h => nomatch h⟩

theorem neutral_telling {events : List Event} (h : Conflict.told events = []) :
    (telling events).Neutral x metadata :=
  ⟨by simpa [telling] using h, fun _ h => nomatch h⟩

/-- Writes are steps that tell nothing by themselves. Whether they conflict is up to the ledger. -/
theorem neutral_staging (ws : List (Path × Input)) : (staging ws).Neutral x metadata :=
  ⟨by simp [staging], fun _ h => nomatch h⟩

/-- What is wrong with a location is no conflict. -/
theorem neutral_relative (l : Spelling) : (ending l.relative).Neutral x metadata := by
  refine ⟨by simp [ending], fun failure h => .inl ?_⟩
  obtain ⟨fault, rfl⟩ := Spelling.relative_eq_error h
  rfl

theorem neutral_sum {ι : Type} {f : ι → Script Nat} (h : ∀ i, (f i).Neutral x metadata)
    (is : List ι) : (sum f is).Neutral x metadata := by
  induction is with
  | nil => exact neutral_pure 0
  | cons i rest ih => exact (h i).bind fun n => ih.bind fun m => neutral_pure (n + m)

end Script

namespace Resolver

variable (r : Resolver) (mount : Path) {x : Expander} {metadata : Metadata}

/-- The one thing that a link gives cause to tell is that it was dropped. -/
theorem told_notice (l : Link) : Conflict.told (r.notice mount l) = [] := by
  unfold notice
  split <;> rfl

theorem locate_eq_error {mount : Path} {l : Link} {failure : Failure}
    (h : locate mount l = .error failure) : ∃ text fault, failure = .location text fault := by
  unfold locate at h
  cases hn : (Spelling.ofPath l.name).relative with
  | error e =>
    obtain ⟨fault, rfl⟩ := Spelling.relative_eq_error hn
    simp only [hn, bind, Except.bind] at h
    exact ⟨_, fault, (Except.error.inj h).symm⟩
  | ok name =>
    simp only [hn, bind, Except.bind, pure, Except.pure] at h
    split at h
    · exact ⟨_, _, (Except.error.inj h).symm⟩
    · cases h

/-- A link is refused for its name, for where it leads to, or for want of a policy. -/
theorem refusal?_eq_some {r : Resolver} {mount : Path} {l : Link} {failure : Failure}
    (h : r.refusal? mount l = some failure) :
    (∃ text fault, failure = .location text fault) ∨
      (∃ target location, failure = .forbiddenLink target location) ∨
      ∃ label, r.policy = .other label ∧ failure = .unknownPolicy label := by
  unfold refusal? at h
  split at h
  next hl =>
    obtain rfl := Option.some.inj h
    exact .inl (locate_eq_error hl)
  next => cases h
  next =>
    split at h
    next =>
      obtain rfl := Option.some.inj h
      exact .inr (.inl ⟨_, _, rfl⟩)
    next => cases h
    next =>
      split at h
      · obtain rfl := Option.some.inj h
        exact .inr (.inl ⟨_, _, rfl⟩)
      · cases h
    next label hpolicy =>
      obtain rfl := Option.some.inj h
      exact .inr (.inr ⟨label, hpolicy, rfl⟩)

/-- A manifest fails for a location, for a link that is forbidden, or for want of a policy. -/
theorem manifest_eq_error {r : Resolver} {links : List Link} {mount : Spelling}
    {failure : Failure} (h : (r.manifest links mount).1 = .error failure) :
    (∃ text fault, failure = .location text fault) ∨
      (∃ target location, failure = .forbiddenLink target location) ∨
      ∃ label, r.policy = .other label ∧ failure = .unknownPolicy label := by
  rcases manifest_eq_error_iff.mp h with hm | ⟨-, hl⟩
  · obtain ⟨fault, rfl⟩ := Spelling.relative_eq_error hm
    exact .inl ⟨_, fault, rfl⟩
  · obtain ⟨l, -, href⟩ := List.exists_of_findSome?_eq_some hl
    exact refusal?_eq_some href

/-- None of these is a conflict. -/
theorem ofFailure?_manifest {links : List Link} {mount : Spelling} {failure : Failure}
    (h : (r.manifest links mount).1 = .error failure) : Conflict.ofFailure? failure = none := by
  rcases manifest_eq_error h with ⟨_, _, rfl⟩ | ⟨_, _, rfl⟩ | ⟨_, -, rfl⟩ <;> rfl

/-- What is told while links are declared is about links. -/
theorem told_declareAll {d : Draft} (hd : Conflict.told d.log = []) (links : List Link) :
    Conflict.told (r.declareAll mount d links).1.log = [] := by
  induction links generalizing d with
  | nil => exact hd
  | cons l rest ih =>
    rw [declareAll, declare_eq]
    cases r.refusal? mount l with
    | some e => exact hd
    | none =>
      refine ih ?_
      rw [Draft.read_single, Conflict.told_append, hd, told_notice, List.nil_append]

theorem told_settle (links : Table Path String) {m : Manifest} {log : List Event}
    (h : Conflict.told log = []) (link : Path × String) :
    Conflict.told (r.settle links (m, log) link).2 = [] := by
  unfold settle
  dsimp only
  cases chase links r.maxHops link.1 link.2 [] with
  | tooLong => exact (Conflict.told_snoc rfl log).trans h
  | cycle seen => exact (Conflict.told_snoc rfl log).trans h
  | arrived at_ =>
    dsimp only
    cases m.entries.get? at_ with
    | none => exact (Conflict.told_snoc rfl log).trans h
    | some target => exact h

/-- A manifest knows nothing of what is in the ledger, and so of no conflict. -/
theorem told_manifest (links : List Link) (mount : Spelling) :
    Conflict.told (r.manifest links mount).2 = [] := by
  unfold manifest
  cases mount.relative with
  | error e => rfl
  | ok path =>
    dsimp only
    have hd := r.told_declareAll path.normalize (d := {}) rfl links
    rcases hall : r.declareAll path.normalize {} links with ⟨d, _ | _⟩
    · rw [hall] at hd
      exact hd
    · rw [hall] at hd
      have hfold : ∀ (order : List (Path × String)) (m : Manifest × List Event),
          Conflict.told m.2 = [] → Conflict.told (order.foldl (r.settle d.links) m).2 = [] := by
        intro order
        induction order with
        | nil => exact fun m hm => hm
        | cons link rest ih => exact fun m hm => ih _ (r.told_settle d.links hm link)
      exact hfold _ _ hd

theorem neutral_script (links : List Link) (mount : Path) :
    (r.script links mount).Neutral x metadata := by
  have hending : (Script.ending (r.manifest links (.ofPath mount)).1).Neutral x metadata :=
    ⟨by simp [Script.ending], fun failure h => .inl (r.ofFailure?_manifest h)⟩
  exact (Script.neutral_telling (r.told_manifest links mount)).bind fun _ =>
    hending.bind fun _ => Script.neutral_staging _

end Resolver

namespace Engine

variable (e : Engine) (x : Expander) (metadata : Metadata)

/-- What an expander fails with is handed on as it is. -/
theorem neutral_expansionScript {α : Type} {known : Except Failure α} {missing : Event}
    (hm : Conflict.ofEvent? missing = none)
    (hf : ∀ failure, known = .error failure → failure.Foreign x metadata) :
    (expansionScript known missing).Neutral x metadata := by
  cases known with
  | ok a => exact Script.neutral_pure a
  | error failure =>
    have htold : Conflict.told (if failure.isInternal then [missing] else []) = [] := by
      cases failure.isInternal with
      | true => simp [Conflict.told, hm]
      | false => rfl
    refine (Script.neutral_telling htold).bind fun _ => ⟨by simp [Script.ending], ?_⟩
    exact fun failure' h => .inr (hf failure' (congrArg _ (Except.error.inj h)))

theorem neutral_treeScript (a : Artifact) : (treeScript x a).Neutral x metadata :=
  neutral_expansionScript x metadata rfl fun _ => .members

theorem neutral_filesetScript (a : Artifact) : (filesetScript x a).Neutral x metadata :=
  neutral_expansionScript x metadata rfl fun _ => .links

/-- So is what the metadata fail with. -/
theorem neutral_checkScript (a : Artifact) : (checkScript metadata a).Neutral x metadata := by
  have hasked : (Script.ending (metadata (.artifact a))).Neutral x metadata :=
    ⟨by simp [Script.ending], fun _ h => .inr (.metadata h)⟩
  unfold checkScript
  refine hasked.bind fun type => ?_
  cases accepts type with
  | true => exact Script.neutral_pure ()
  | false => exact (Script.neutral_telling rfl).bind fun _ => Script.neutral_refusing rfl

theorem neutral_inputScript (a : Artifact) : (inputScript x a).Neutral x metadata := by
  unfold inputScript
  cases a.kind with
  | tree =>
    exact (neutral_treeScript x metadata a).bind fun _ => Script.neutral_staging _
  | file => exact Script.neutral_staging _
  | fileset => exact Script.neutral_refusing rfl
  | other label => exact Script.neutral_refusing rfl

theorem neutral_runfileScript (location : Path) (entry : Option Artifact) :
    (e.runfileScript metadata x location entry).Neutral x metadata := by
  unfold runfileScript
  cases entry with
  | none => exact Script.neutral_staging _
  | some a =>
    dsimp only
    cases a.kind with
    | tree =>
      exact (neutral_treeScript x metadata a).bind fun _ => Script.neutral_staging _
    | fileset =>
      exact (neutral_filesetScript x metadata a).bind fun links =>
        e.resolver.neutral_script links location
    | file =>
      cases e.strict with
      | true => exact (neutral_checkScript x metadata a).bind fun _ => Script.neutral_staging _
      | false => exact Script.neutral_staging _
    | other label => exact Script.neutral_refusing rfl

theorem neutral_rootScript (root : Path × Table Path (Option Artifact)) :
    (e.rootScript metadata x root).Neutral x metadata :=
  (Script.neutral_relative _).bind fun _ => Script.neutral_sum (fun _ =>
    (Script.neutral_relative _).bind fun _ => e.neutral_runfileScript x metadata _ _) _

theorem neutral_mountScript (mount : Artifact × List Link) :
    (e.mountScript mount).Neutral x metadata := by
  unfold mountScript
  cases mount.1.isFileset with
  | true => exact e.resolver.neutral_script _ _
  | false => exact Script.neutral_refusing rfl

/-- The whole script of a call has nothing to do with conflicts: they all come from its writes. -/
theorem script_neutral (action : Action) : (e.script action x metadata).Neutral x metadata := by
  unfold script
  refine (Script.neutral_entering _).bind fun _ => ?_
  refine (Script.neutral_sum (neutral_inputScript x metadata) _).bind fun _ => ?_
  refine (Script.neutral_entering _).bind fun _ => ?_
  refine (Script.neutral_sum (e.neutral_rootScript x metadata) _).bind fun _ => ?_
  refine (Script.neutral_entering _).bind fun _ => ?_
  exact (Script.neutral_sum (e.neutral_mountScript x metadata) _).bind fun _ =>
    Script.neutral_pure _

/-- What a call tells beyond its steps is a count. -/
theorem told_map {e : Engine} {action : Action} {x : Expander} {base : Option Spelling}
    {metadata : Metadata} {dir : Path} (hb : Path.baseDirectory base = .ok dir) :
    Conflict.told (e.map action x base metadata).2 =
      Conflict.told (Script.Step.runAll (some (.ofPath dir))
        (e.script action x metadata).steps e.start).2.log := by
  rw [map_eq_conclude hb]
  rcases Script.Step.runAll (some (.ofPath dir)) (e.script action x metadata).steps e.start
    with ⟨_ | _, p⟩
  · rfl
  · unfold conclude
    cases (e.script action x metadata).outcome with
    | error failure => rfl
    | ok counts => exact Conflict.told_snoc rfl p.log

end Engine

end InputStaging
