import InputStaging.CommandLine.Session
import InputStaging.Proofs.Setup.Directories
import InputStaging.Proofs.Setup.Rereading

/-!
# Overriding

An override replaces what it names and, where it does not name the execution root, reads that
root's own name once more. Settings come through this as they should as long as the name leads back
to the root. A root that has a variable in its name, because the value of another variable put it
there, is moved by an override of something else.
-/

namespace InputStaging

namespace Settings

open Document

variable {e : Environment} {s s' : Settings} {o : Overrides} {text : String} {fe : FrontEnd}

/-! ## Overrides -/

/-- Everything but the execution root, with what is overridden replaced. -/
def Overrides.choices (o : Overrides) (s : Settings) : Choices :=
  { s.toChoices with
    strict := o.strict.getD s.strict
    policy := (o.policy.map Subtype.val).getD s.policy
    policy_known := by
      cases o.policy with
      | none => exact s.policy_known
      | some policy => exact policy.2 }

/-- The settings with everything replaced that is overridden, and another execution root. -/
def Overrides.onto (o : Overrides) (s : Settings) (root : { p : Path // p.isAbsolute = true }) :
    Settings :=
  (o.choices s).rootedAt root

/-- Only what is named is replaced, the execution root by the directory that its name stands for. -/
def Overrides.alone (o : Overrides) (e : Environment) (s : Settings) :
    Except SetupFailure Settings :=
  match o.execRoot with
  | none => .ok (o.onto s ⟨s.execRoot, s.rooted⟩)
  | some text => ((e.directory text).mapError (rootFailure .overrideInvalid)).map (o.onto s)

/-- What is written down to be read again. -/
def Overrides.written (o : Overrides) (s : Settings) : Written :=
  { o.choices s with execRoot := o.execRoot.getD s.execRoot.text }

/-- What is overridden stands in place of what it overrides. -/
theorem shown_written (o : Overrides) (s : Settings) :
    (o.written s).Shown (distinct sameKey (s.fields ++ o.fields)) := by
  have hnames : ∀ e ∈ s.fields ++ o.fields, e.1.isText = true := by
    intro e he
    simp only [fields, Overrides.fields, List.mem_append, List.mem_cons, List.not_mem_nil, or_false,
      Option.mem_toList, Option.map_eq_some_iff] at he
    rcases he with (rfl | rfl | rfl | rfl | rfl) | (⟨_, -, rfl⟩ | ⟨_, -, rfl⟩) | ⟨_, -, rfl⟩ <;> rfl
  have hvalue (name : String) : valueOf? (distinct sameKey (s.fields ++ o.fields)) name =
      (valueOf? o.fields.reverse name).or (valueOf? s.fields.reverse name) := by
    rw [valueOf?_distinct hnames, List.reverse_append, valueOf?_append]
  obtain ⟨root, strict, policy⟩ := o
  constructor <;> rw [hvalue] <;> cases root <;> cases strict <;> cases policy <;> rfl

theorem Overrides.isEmpty_iff :
    o.isEmpty = true ↔ o.execRoot = none ∧ o.strict = none ∧ o.policy = none := by
  simp [isEmpty, and_assoc]

theorem override_of_isEmpty (h : o.isEmpty = true) : s.override e o fe = .ok s := if_pos h

/-- Reading everything again comes down to looking up the execution root. -/
theorem override_eq (hfe : TakesShown fe) (h : o.isEmpty = false) : s.override e o fe =
    ((e.directory (o.execRoot.getD s.execRoot.text)).mapError
      (rootFailure .overrideInvalid)).map (o.onto s) := by
  rw [override, if_neg (by simp [h]), judge_of_shown hfe (shown_written o s)]
  rfl

theorem isEmpty_of_named (h : o.execRoot = some text) : o.isEmpty = false := by
  simp [Overrides.isEmpty, h]

theorem override_of_named (hfe : TakesShown fe) (h : o.execRoot = some text) :
    s.override e o fe = o.alone e s := by
  rw [override_eq hfe (isEmpty_of_named h), Overrides.alone, h, Option.getD_some]

theorem override_of_speakable (hfe : TakesShown fe) (h : o.execRoot = none)
    (hne : o.isEmpty = false) (hs : Environment.Speakable s.execRoot.text.toList) :
    s.override e o fe =
      .ok (o.onto s ⟨e.reread s.execRoot, Environment.isAbsolute_reread s.rooted⟩) := by
  rw [override_eq hfe hne, h, Option.getD_none, Environment.directory_of_speakable s.rooted hs]
  rfl

theorem override_of_unspeakable (hfe : TakesShown fe) (h : o.execRoot = none)
    (hne : o.isEmpty = false) (hs : ¬ Environment.Speakable s.execRoot.text.toList) :
    s.override e o fe = .error (rootFailure .overrideInvalid .unspeakable) := by
  rw [override_eq hfe hne, h, Option.getD_none, Environment.directory_of_unspeakable hs]
  rfl

theorem alone_of_unnamed (h : o.execRoot = none) :
    o.alone e s = .ok (o.onto s ⟨s.execRoot, s.rooted⟩) := by
  rw [Overrides.alone, h]

/-- An override that does not name the execution root leaves it alone exactly if reading its name
leads back to it. -/
theorem override_eq_alone_iff (hfe : TakesShown fe) (h : o.execRoot = none)
    (hne : o.isEmpty = false) :
    s.override e o fe = o.alone e s ↔ e.Settled s.execRoot := by
  rw [alone_of_unnamed h]
  by_cases hs : Environment.Speakable s.execRoot.text.toList
  case pos =>
    rw [override_of_speakable hfe h hne hs]
    constructor
    · exact fun heq => ⟨hs, congrArg execRoot (Except.ok.inj heq)⟩
    · rintro ⟨-, hsame⟩
      simp only [hsame]
  case neg =>
    rw [override_of_unspeakable hfe h hne hs]
    exact ⟨nofun, fun hsettled => absurd hsettled.1 hs⟩

/-- What becomes of settings that are overridden. -/
structure Overridden (e : Environment) (s : Settings) (o : Overrides) (fe : FrontEnd) : Prop where
  /-- When nothing is touched but what is named. -/
  alone : s.override e o fe = o.alone e s ↔
    o.isEmpty = true ∨ o.execRoot.isSome = true ∨ e.Settled s.execRoot
  /-- It is so where no variable that the execution root refers to is set. -/
  unset : Environment.Speakable s.execRoot.text.toList →
    (∀ name ∈ Environment.mentioned s.execRoot.text.toList, e.vars.get? name = none) →
    s.override e o fe = o.alone e s
  noDollar : '$' ∉ s.execRoot.text.toList → s.override e o fe = o.alone e s
  /-- All settings but the execution root are either replaced or kept. -/
  others : ∀ s', s.override e o fe = .ok s' →
    s'.strict = o.strict.getD s.strict ∧
      s'.policy = (o.policy.map Subtype.val).getD s.policy ∧
      s'.conflictMode = s.conflictMode ∧ s'.maxConcurrent = s.maxConcurrent
  /-- An execution root that is named is looked up. -/
  named : ∀ text, o.execRoot = some text → ∀ s', s.override e o fe = .ok s' →
    (e.directory text).map Subtype.val = .ok s'.execRoot
  /-- One that is not named is read again, if anything is overridden. -/
  unnamed : o.execRoot = none → ∀ s', s.override e o fe = .ok s' →
    s'.execRoot = if o.isEmpty then s.execRoot else e.reread s.execRoot
  /-- An override is refused exactly because of the execution root, be it named or not. -/
  refused : ∀ failure, s.override e o fe = .error failure ↔
    o.isEmpty = false ∧ ∃ fault, e.directory (o.execRoot.getD s.execRoot.text) = .error fault ∧
      rootFailure .overrideInvalid fault = failure

theorem alone_of_isEmpty (h : o.isEmpty = true) : o.alone e s = .ok s := by
  obtain ⟨hroot, hstrict, hpolicy⟩ := Overrides.isEmpty_iff.mp h
  rw [alone_of_unnamed hroot]
  simp [Overrides.onto, Overrides.choices, Choices.rootedAt, hstrict, hpolicy]

theorem override_alone_iff (hfe : TakesShown fe) : s.override e o fe = o.alone e s ↔
    o.isEmpty = true ∨ o.execRoot.isSome = true ∨ e.Settled s.execRoot := by
  cases hempty : o.isEmpty with
  | true => simp [override_of_isEmpty hempty, alone_of_isEmpty hempty]
  | false =>
    cases hroot : o.execRoot with
    | some text => simp [override_of_named hfe hroot]
    | none => simp [override_eq_alone_iff hfe hroot hempty]

/-- A successful override stems from an execution root. -/
theorem override_eq_ok (hfe : TakesShown fe) (h : s.override e o fe = .ok s') :
    (o.isEmpty = true ∧ s' = s) ∨ (o.isEmpty = false ∧
      ∃ root, e.directory (o.execRoot.getD s.execRoot.text) = .ok root ∧ s' = o.onto s root) := by
  cases hempty : o.isEmpty with
  | true =>
    rw [override_of_isEmpty hempty] at h
    exact .inl ⟨rfl, (Except.ok.inj h).symm⟩
  | false =>
    rw [override_eq hfe hempty] at h
    cases hdir : e.directory (o.execRoot.getD s.execRoot.text) with
    | error fault => rw [hdir] at h; cases h
    | ok root =>
      rw [hdir] at h
      exact .inr ⟨rfl, root, rfl, (Except.ok.inj h).symm⟩

theorem overridden (hfe : TakesShown fe) (e : Environment) (s : Settings) (o : Overrides) :
    Overridden e s o fe := by
  have hsettled : e.Settled s.execRoot → s.override e o fe = o.alone e s :=
    fun h => (override_alone_iff hfe).mpr (.inr (.inr h))
  constructor
  case alone => exact override_alone_iff hfe
  case unset => exact fun hs hunset => hsettled (Environment.settled_of_unset hs hunset)
  case noDollar => exact fun h => hsettled (Environment.settled_of_noDollar h)
  case others =>
    intro s' h
    rcases override_eq_ok hfe h with ⟨hempty, rfl⟩ | ⟨-, root, -, rfl⟩
    · obtain ⟨-, hstrict, hpolicy⟩ := Overrides.isEmpty_iff.mp hempty
      rw [hstrict, hpolicy]
      exact ⟨rfl, rfl, rfl, rfl⟩
    · exact ⟨rfl, rfl, rfl, rfl⟩
  case named =>
    intro text hroot s' h
    rcases override_eq_ok hfe h with ⟨hempty, -⟩ | ⟨-, root, hdir, rfl⟩
    · cases (isEmpty_of_named hroot).symm.trans hempty
    · rw [hroot, Option.getD_some] at hdir
      rw [hdir]
      rfl
  case unnamed =>
    intro hroot s' h
    rcases override_eq_ok hfe h with ⟨hempty, rfl⟩ | ⟨hempty, root, hdir, rfl⟩
    · rw [if_pos hempty]
    · rw [if_neg (by simp [hempty])]
      by_cases hs : Environment.Speakable s.execRoot.text.toList
      case pos =>
        rw [override_of_speakable hfe hroot hempty hs] at h
        exact (congrArg execRoot (Except.ok.inj h)).symm
      case neg =>
        rw [override_of_unspeakable hfe hroot hempty hs] at h
        cases h
  case refused =>
    intro failure
    cases hempty : o.isEmpty with
    | true => simp [override_of_isEmpty hempty]
    | false =>
      rw [override_eq hfe hempty]
      cases e.directory (o.execRoot.getD s.execRoot.text) with
      | ok root => exact ⟨nofun, fun ⟨_, _, hfault, _⟩ => nomatch hfault⟩
      | error fault =>
        constructor
        · exact fun h => ⟨rfl, fault, rfl, Except.error.inj h⟩
        · rintro ⟨-, fault', hfault, hfailure⟩
          obtain rfl := Except.error.inj hfault
          exact congrArg Except.error hfailure

end Settings

namespace CommandLine

variable {e : Environment} {o : Options} {fe : FrontEnd} {s : Settings} {log : List Event}

/-- The settings that a run maps with are the loaded ones, overridden. -/
theorem settings_of_prepare (h : Settings.load e o.config fe = (.ok s, log)) {job : Job}
    (hjob : (prepare e o fe).1 = .ok job) : s.override e o.overrides fe = .ok job.settings := by
  obtain ⟨s', before, hload, hsettings, -⟩ := prepare_eq_ok (Prod.ext hjob rfl)
  obtain ⟨hs, -⟩ := Prod.mk.inj (h.symm.trans hload)
  obtain rfl := Except.ok.inj hs
  exact hsettings

/-- An override that is refused ends the preparation before the description is looked at. -/
theorem prepare_of_refused (h : Settings.load e o.config fe = (.ok s, log)) {failure : SetupFailure}
    (hs : s.override e o.overrides fe = .error failure) :
    prepare e o fe = (.error failure, log) := by
  unfold prepare
  rw [h]
  dsimp only
  rw [hs]

/-- A run overrides the settings that it has loaded, once, and maps with the outcome. Nothing but
what is named on the command line is replaced exactly if the execution root is named as well, or if
reading its name leads back to it, or if nothing is named. -/
theorem prepare_overridden (hfe : Settings.TakesShown fe)
    (h : Settings.load e o.config fe = (.ok s, log)) :
    Settings.Overridden e s o.overrides fe ∧
      (∀ job, (prepare e o fe).1 = .ok job → s.override e o.overrides fe = .ok job.settings ∧
        (o.overrides.alone e s = .ok job.settings ↔ o.overrides.isEmpty = true ∨
          o.overrides.execRoot.isSome = true ∨ e.Settled s.execRoot)) ∧
      ∀ failure, s.override e o.overrides fe = .error failure →
        prepare e o fe = (.error failure, log) := by
  refine ⟨Settings.overridden hfe e s o.overrides, fun job hjob => ?_,
    fun _ => prepare_of_refused h⟩
  have hs := settings_of_prepare h hjob
  refine ⟨hs, ?_⟩
  rw [← Settings.override_alone_iff hfe, hs]
  exact eq_comm

/-- A variable whose value refers to another one, and an execution root that it names. -/
def nested : Environment where
  vars := .ofList [("A", "/x/$B"), ("B", "q")]
  workingDirectory := .ofString "/cwd"
  rooted := by decide
  read file := match file.text with
    | "settings.yaml" => .ok "exec_root: $A"
    | "spawn.yaml" => .ok "inputs: [f]"
    | _ => .error .missing

/-- A run in which the strict mode is turned on, and nothing else. -/
def strictRun : Options := { spawn := "spawn.yaml", config := "settings.yaml", strict := true }

/-- Turning on the strict mode moves the execution root. -/
theorem prepare_strictRun :
    ∃ s log job, Settings.load nested strictRun.config = (.ok s, log) ∧
      s.execRoot = .ofString "/x/$B" ∧ (prepare nested strictRun).1 = .ok job ∧
      job.settings.execRoot = .ofString "/x/q" := by
  have hloaded : (Settings.load nested strictRun.config).1.toOption.map Settings.execRoot =
      some (.ofString "/x/$B") := by decide +kernel
  have hprepared : (prepare nested strictRun).1.toOption.map (·.settings.execRoot) =
      some (.ofString "/x/q") := by decide +kernel
  rcases hload : Settings.load nested strictRun.config with ⟨result, log⟩
  rw [hload] at hloaded
  obtain ⟨s, hs, hroot⟩ := Option.map_eq_some_iff.mp hloaded
  obtain rfl : result = .ok s := ok_of_toOption hs
  obtain ⟨job, hjob, hmoved⟩ := Option.map_eq_some_iff.mp hprepared
  exact ⟨s, log, job, rfl, hroot, ok_of_toOption hjob, hmoved⟩

theorem overridden_of_strictRun :
    Settings.TakesShown .own ∧ ∃ s log job, Settings.load nested strictRun.config = (.ok s, log) ∧
      (prepare nested strictRun).1 = .ok job ∧
      s.override nested strictRun.overrides = .ok job.settings ∧
      job.settings.strict = true ∧ job.settings.policy = s.policy ∧
      job.settings.execRoot = nested.reread s.execRoot ∧ ¬ nested.Settled s.execRoot := by
  have hown : Settings.TakesShown .own := Settings.takesShown_own .written
  obtain ⟨s, log, job, hload, hroot, hjob, hmoved⟩ := prepare_strictRun
  obtain ⟨hoverridden, hprepared, -⟩ := prepare_overridden hown hload
  obtain ⟨hs, -⟩ := hprepared job hjob
  obtain ⟨hstrict, hpolicy, -⟩ := hoverridden.others job.settings hs
  refine ⟨hown, s, log, job, hload, hjob, hs, hstrict, hpolicy, ?_, fun hsettled => ?_⟩
  · exact hoverridden.unnamed rfl job.settings hs
  · rw [hroot] at hsettled
    exact absurd hsettled.2 (by decide +kernel)

/-- An execution root that is not overridden need not be kept. -/
theorem execRoot_not_kept :
    ¬ ∀ (e : Environment) (o : Options) (s : Settings) (log : List Event) (job : Job),
      Settings.load e o.config = (.ok s, log) → (prepare e o).1 = .ok job →
      o.overrides.alone e s = .ok job.settings := by
  intro hall
  obtain ⟨s, log, job, hload, hroot, hjob, hmoved⟩ := prepare_strictRun
  have halone := hall nested strictRun s log job hload hjob
  rw [Settings.alone_of_unnamed rfl] at halone
  have hkept := congrArg Settings.execRoot (Except.ok.inj halone)
  change s.execRoot = job.settings.execRoot at hkept
  rw [hroot, hmoved] at hkept
  exact absurd hkept (by decide)

end CommandLine

end InputStaging
