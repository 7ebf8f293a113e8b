import InputStaging.Proofs.Attempts
import InputStaging.Proofs.Conflicts

/-!
# What a call may fail with

A call fails at a location, at a conflict, or for something that its script ends with. An
expander that knows every artifact of an action leaves little of the last kind: an action
may still declare what cannot be staged, and nothing else is to blame.
-/

namespace InputStaging

/-- The expander knows what has to be known of an artifact of its kind. -/
structure Expander.Expands (x : Expander) (a : Artifact) : Prop where
  tree : a.kind = .tree → (x.members? a).isSome = true
  fileset : a.kind = .fileset → (x.links? a).isSome = true

/-- The expander knows what has to be known of the artifact, whose kind is known too. -/
structure Expander.Knows (x : Expander) (a : Artifact) : Prop extends x.Expands a where
  kind : ∀ label, a.kind ≠ .other label

/-- The expander knows the artifacts of the action, and its filesets with their links. -/
structure Action.KnownTo (action : Action) (x : Expander) : Prop where
  inputs : ∀ a ∈ action.inputs, x.Knows a
  runfiles : ∀ root ∈ action.runfiles.entries, ∀ entry ∈ root.2.entries, ∀ a,
    entry.2 = some a → x.Knows a
  filesets : ∀ mount ∈ action.filesets.entries,
    mount.1.isFileset = true ∧ x.links? mount.1 = some mount.2

/-- What an engine may fail with for what an action declares: nothing that is missing, and no
artifact of the wrong kind but a fileset among the direct inputs. -/
inductive Engine.Blames (e : Engine) : Failure → Prop where
  | location (text : String) (fault : LocationFault) : Blames e (.location text fault)
  | forbiddenInput (path : Path) : Blames e (.forbiddenInput path)
  | forbiddenLink (target : String) (location : Path) : Blames e (.forbiddenLink target location)
  | conflict (path : Path) (previous replacement : Input) :
      Blames e (.conflict path previous replacement)
  | filesetAsInput (path : Path) : Blames e (.filesetAsInput path)
  | unknownPolicy {label : String} (policy : e.resolver.policy = .other label) :
      Blames e (.unknownPolicy label)

/-! ## Steps -/

namespace Script.Step

variable {dir : Path} {p p' : Progress} {ws : List Write} {failure : Failure}

/-- A single step is stopped by a location or by a conflict, too. -/
theorem run_eq_error {s : Script.Step} {base : Option Spelling} (h : p.ledger.Reflects ws)
    (hr : (s.run base p).1 = .error failure) :
    (∃ text fault, failure = .location text fault) ∨
      ∃ path previous replacement, failure = .conflict path previous replacement := by
  cases s with
  | tell events => cases hr
  | enter phase => cases hr
  | stage location v =>
    cases hd : Path.destination base (.ofPath location) with
    | error e =>
      rw [run_stage_error hd] at hr
      obtain rfl := Except.error.inj hr
      exact .inl (Path.destination_eq_error hd)
    | ok d =>
      rw [run_stage_ok hd] at hr
      obtain ⟨a, -, rfl⟩ := h.write_eq_error_iff.mp hr
      exact .inr ⟨_, _, _, rfl⟩

/-- A run of steps is stopped by a location or by a conflict: no entry is ever missing. -/
theorem runAll_eq_error {ss : List Script.Step} (hdir : dir.Clean) (h : p.ledger.Reflects ws)
    (hr : (runAll (some (.ofPath dir)) ss p).1 = .error failure) :
    (∃ text fault, failure = .location text fault) ∨
      ∃ path previous replacement, failure = .conflict path previous replacement := by
  induction ss generalizing p ws with
  | nil => cases hr
  | cons s rest ih =>
    rcases hs : s.run (some (.ofPath dir)) p with ⟨e | _, p₁⟩
    · rw [runAll_of_step_error (congrArg Prod.fst hs)] at hr
      exact run_eq_error h hr
    · rw [runAll_of_step_ok hs] at hr
      exact ih (passed_step hdir hs h).reflects hr

end Script.Step

/-! ## Scripts -/

namespace Script

variable {α β : Type} {P : Failure → Prop}

/-- Whatever the script ends with, if not with a result, has the property. -/
def FailsOnly (P : Failure → Prop) (s : Script α) : Prop :=
  ∀ failure, s.outcome = .error failure → P failure

theorem failsOnly_of_ok {s : Script α} {a : α} (h : s.outcome = .ok a) : s.FailsOnly P :=
  fun _ hf => nomatch h.symm.trans hf

theorem failsOnly_refusing {failure : Failure} (h : P failure) :
    (ending (.error failure) : Script α).FailsOnly P :=
  fun _ hf => Except.error.inj hf ▸ h

/-- What comes second can only fail once the first has come to its result. -/
theorem FailsOnly.bind {s : Script α} {f : α → Script β} (hs : s.FailsOnly P)
    (hf : ∀ a, s.outcome = .ok a → (f a).FailsOnly P) : (s >>= f).FailsOnly P := by
  show (s.bind f).FailsOnly P
  unfold Script.bind
  cases ho : s.outcome with
  | error e => exact fun failure h => hs failure (ho.trans (congrArg _ (Except.error.inj h)))
  | ok a => exact hf a ho

theorem failsOnly_sum {ι : Type} {f : ι → Script Nat} {is : List ι}
    (h : ∀ i ∈ is, (f i).FailsOnly P) : (sum f is).FailsOnly P := by
  induction is with
  | nil => exact failsOnly_of_ok rfl
  | cons i rest ih =>
    refine (h i List.mem_cons_self).bind fun n _ => ?_
    exact (ih fun j hj => h j (List.mem_cons_of_mem _ hj)).bind fun m _ => failsOnly_of_ok rfl

end Script

namespace Engine

variable {e : Engine} {x : Expander} {metadata : Metadata} {a : Artifact}

theorem failsOnly_relative (l : Spelling) : (Script.ending l.relative).FailsOnly e.Blames := by
  intro failure h
  obtain ⟨fault, rfl⟩ := Spelling.relative_eq_error h
  exact .location _ _

/-- A fileset fails for what its links are, or for want of a policy that is there to be used. -/
theorem failsOnly_script (links : List Link) (mount : Path) :
    (e.resolver.script links mount).FailsOnly e.Blames := by
  refine (Script.failsOnly_of_ok rfl).bind fun _ _ => Script.FailsOnly.bind ?_ fun _ _ =>
    Script.failsOnly_of_ok rfl
  intro failure h
  rcases Resolver.manifest_eq_error h with ⟨_, _, rfl⟩ | ⟨_, _, rfl⟩ | ⟨_, hpolicy, rfl⟩
  · exact .location _ _
  · exact .forbiddenLink _ _
  · exact .unknownPolicy hpolicy

theorem failsOnly_expansionScript {α : Type} {known : Except Failure α}
    (h : known.toOption.isSome = true) (missing : Event) :
    (expansionScript known missing).FailsOnly e.Blames := by
  cases known with
  | ok a => exact Script.failsOnly_of_ok rfl
  | error failure => cases h

/-- A check fails for the type of a file, as long as the metadata can tell it. -/
theorem failsOnly_checkScript (hasked : ∀ v failure, metadata v ≠ .error failure) (a : Artifact) :
    (checkScript metadata a).FailsOnly e.Blames := by
  refine Script.FailsOnly.bind (fun failure h => absurd h (hasked _ _)) fun type _ => ?_
  cases accepts type with
  | true => exact Script.failsOnly_of_ok rfl
  | false =>
    exact (Script.failsOnly_of_ok rfl).bind fun _ _ => Script.failsOnly_refusing (.forbiddenInput _)

theorem failsOnly_inputScript (h : x.Knows a) : (inputScript x a).FailsOnly e.Blames := by
  unfold inputScript
  cases hkind : a.kind with
  | tree =>
    exact (failsOnly_expansionScript (h.tree hkind) _).bind fun _ _ => Script.failsOnly_of_ok rfl
  | file => exact Script.failsOnly_of_ok rfl
  | fileset => exact Script.failsOnly_refusing (.filesetAsInput _)
  | other label => exact absurd hkind (h.kind label)

/-- A runfile that is known fails for what it is declared as, if at all. -/
theorem failsOnly_runfileScript (hasked : ∀ v failure, metadata v ≠ .error failure)
    (location : Path) {entry : Option Artifact} (h : ∀ a, entry = some a → x.Knows a) :
    (e.runfileScript metadata x location entry).FailsOnly e.Blames := by
  unfold runfileScript
  cases entry with
  | none => exact Script.failsOnly_of_ok rfl
  | some a =>
    have ha := h a rfl
    dsimp only
    cases hkind : a.kind with
    | tree =>
      exact (failsOnly_expansionScript (ha.tree hkind) _).bind fun _ _ =>
        Script.failsOnly_of_ok rfl
    | fileset =>
      exact (failsOnly_expansionScript (ha.fileset hkind) _).bind fun links _ =>
        failsOnly_script links location
    | file =>
      cases e.strict with
      | true => exact (failsOnly_checkScript hasked a).bind fun _ _ => Script.failsOnly_of_ok rfl
      | false => exact Script.failsOnly_of_ok rfl
    | other label => exact absurd hkind (ha.kind label)

theorem failsOnly_mountScript {mount : Artifact × List Link} (h : mount.1.isFileset = true) :
    (e.mountScript mount).FailsOnly e.Blames := by
  unfold mountScript
  rw [if_pos h]
  exact failsOnly_script _ _

/-- By the phases of a call, each on the strength of what is known of its items. -/
theorem script_failsOnly {action : Action} (hasked : ∀ v failure, metadata v ≠ .error failure)
    (h : action.KnownTo x) : (e.script action x metadata).FailsOnly e.Blames := by
  unfold script
  refine (Script.failsOnly_of_ok rfl).bind fun _ _ => ?_
  refine (Script.failsOnly_sum fun a ha => failsOnly_inputScript (h.inputs a ha)).bind fun _ _ => ?_
  refine (Script.failsOnly_of_ok rfl).bind fun _ _ => ?_
  refine (Script.failsOnly_sum fun root hroot => ?_).bind fun _ _ => ?_
  · exact (failsOnly_relative _).bind fun _ _ => Script.failsOnly_sum fun entry hentry =>
      (failsOnly_relative _).bind fun _ _ =>
        failsOnly_runfileScript hasked _ (h.runfiles root hroot entry hentry)
  refine (Script.failsOnly_of_ok rfl).bind fun _ _ => ?_
  exact (Script.failsOnly_sum fun mount hm => failsOnly_mountScript (h.filesets mount hm).1).bind
    fun _ _ => Script.failsOnly_of_ok rfl

/-- Where everything is known, a call fails only for what the action declares. -/
theorem blames_of_map {action : Action} {base : Option Spelling} {failure : Failure}
    (hasked : ∀ v failure, metadata v ≠ .error failure) (hknown : action.KnownTo x)
    (h : (e.map action x base metadata).1 = .error failure) : e.Blames failure := by
  cases hb : Path.baseDirectory base with
  | error f =>
    have hmap : (e.map action x base metadata).1 = .error f := by
      unfold map
      rw [run_eq, hb]
      rfl
    obtain rfl := Except.error.inj (hmap.symm.trans h)
    obtain ⟨_, _, rfl⟩ := Path.baseDirectory_eq_error hb
    exact .location _ _
  | ok dir =>
    rw [map_outcome hb] at h
    rcases hran : (Script.Step.runAll (some (.ofPath dir)) (e.script action x metadata).steps
      e.start).1 with f | _
    · rw [hran] at h
      obtain rfl := Except.error.inj h
      rcases Script.Step.runAll_eq_error (Path.baseDirectory_clean hb)
        (Ledger.reflects_nil _) hran with ⟨_, _, rfl⟩ | ⟨_, _, _, rfl⟩
      · exact .location _ _
      · exact .conflict _ _ _
    · rw [hran] at h
      cases ho : (e.script action x metadata).outcome with
      | error f =>
        rw [ho] at h
        obtain rfl := Except.error.inj h
        exact script_failsOnly hasked hknown f ho
      | ok counts =>
        rw [ho] at h
        cases h

end Engine

end InputStaging
