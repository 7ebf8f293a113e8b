import InputStaging.CommandLine.Session

/-!
# Failures before anything is mapped

The links of listed filesets are looked up while a description is loaded, which may fail as a
mapping does. Nothing else that comes before a mapping can fail so: neither reading a file, nor
judging settings, nor overriding them.
-/

namespace InputStaging

namespace SetupFailure

variable {ε α β : Type}

/-- It is not for want of an expansion that the value is missing. -/
def Spared (x : Except SetupFailure α) : Prop := ∀ failure, x ≠ .error (.expansion failure)

theorem spared_ok (a : α) : Spared (.ok a) := fun _ => nofun

theorem spared_error {f : SetupFailure} (h : ∀ failure, f ≠ .expansion failure) :
    Spared (.error f : Except SetupFailure α) :=
  fun failure he => h failure (Except.error.inj he)

/-- A fault that is told in terms of setup is told as something else than a missing expansion. -/
theorem spared_mapError {g : ε → SetupFailure} (h : ∀ fault failure, g fault ≠ .expansion failure)
    (x : Except ε α) : Spared (x.mapError g) := by
  cases x with
  | ok a => exact spared_ok a
  | error fault => exact spared_error (h fault)

/-- What is spared in all its parts is spared as a whole. -/
theorem Spared.bind {x : Except SetupFailure α} {f : α → Except SetupFailure β} (hx : Spared x)
    (hf : ∀ a, Spared (f a)) : Spared (x >>= f) := by
  cases x with
  | ok a => exact hf a
  | error f => exact spared_error fun failure he => hx failure (congrArg _ he)

theorem Spared.map {x : Except SetupFailure α} (hx : Spared x) (f : α → β) :
    Spared (x.map f) := by
  cases x with
  | ok a => exact spared_ok _
  | error f => exact spared_error fun failure he => hx failure (congrArg _ he)

end SetupFailure

open SetupFailure

/-- A file may be missing or unreadable, and its text may be no document. -/
theorem Environment.spared_document (e : Environment) (file : Path) (fe : FrontEnd) :
    Spared (e.document file fe) := by
  have hread : Spared ((e.read file).mapError SetupFailure.file) :=
    spared_mapError (fun _ _ h => by cases h) _
  have hparsed (text : String) : Spared ((fe.yaml text).mapError (ofYaml file)) :=
    spared_mapError (fun fault failure => by cases fault <;> nofun) _
  exact hread.bind fun text => (hparsed text).bind fun d => spared_ok _

namespace Settings

theorem breakage?_ne_expansion {fault : DirectoryFault} {f : SetupFailure}
    (h : breakage? fault = some f) (failure : Failure) : f ≠ .expansion failure := by
  cases fault <;> cases h <;> nofun

/-- Settings are judged without a look at any artifact. -/
theorem spared_judge {invalid : List Violation → SetupFailure}
    (hinvalid : ∀ vs failure, invalid vs ≠ .expansion failure) (e : Environment)
    (es : List (Document × Document)) (fe : FrontEnd) : Spared (judge e invalid es fe) := by
  unfold judge
  split
  next f hf =>
    unfold brokenOff? at hf
    split at hf
    · split at hf
      · exact spared_error (breakage?_ne_expansion hf)
      · cases hf
    · cases hf
  next =>
    refine (spared_mapError hinvalid _).bind fun w => (spared_mapError (fun fault => ?_) _).map _
    unfold rootFailure
    cases hf : breakage? fault with
    | none => exact hinvalid _
    | some f => exact breakage?_ne_expansion hf

/-- Neither does their document name one. -/
theorem spared_ofDocument (e : Environment) (source : String) (d : Document) (fe : FrontEnd) :
    Spared (ofDocument e source d fe) := by
  refine Spared.bind ?_ fun es => ?_
  · unfold sectionOf
    split
    · split
      · exact spared_ok _
      · exact spared_error fun _ h => by cases h
    · exact spared_error fun _ h => by cases h
  · cases es.all fun entry => entry.1.isText with
    | true => exact spared_judge (fun _ _ h => by cases h) e es fe
    | false => exact spared_error fun _ h => by cases h

theorem spared_load (e : Environment) (file : Option String) (fe : FrontEnd) :
    Spared (load e file fe).1 := by
  have hdefault : Spared (default e fe) := spared_judge (fun _ _ h => by cases h) e [] fe
  unfold load
  split
  next => exact hdefault
  next p _ =>
    have hdocument := e.spared_document p fe
    split
    next f hf =>
      split
      · exact hdefault
      · exact spared_error fun _ h => by cases h
    next f _ hf => exact spared_error fun failure he => hdocument failure (hf.trans (congrArg _ he))
    next d _ =>
      have hd := spared_ofDocument e p.text d fe
      split
      next f hf => exact spared_error fun failure he => hd failure (hf.trans (congrArg _ he))
      next => exact spared_ok _

theorem spared_override (s : Settings) (e : Environment) (o : Overrides) (fe : FrontEnd) :
    Spared (s.override e o fe) := by
  unfold override
  split
  · exact spared_ok s
  · exact spared_judge (fun _ _ h => by cases h) e _ fe

end Settings

namespace CommandLine

/-- A failure that is not one of a mapping ends a run as it is put down to the files or not. -/
theorem setupFailed_ending {f : SetupFailure} (h : ∀ failure, f ≠ .expansion failure)
    (log : List Event) : (setupFailed f log).ending =
      if f.isConfiguration then .exit Ending.configuration else .brokeOff (.setup f) := by
  unfold setupFailed
  split
  next failure => exact absurd rfl (h failure)
  next => split <;> rfl

end CommandLine

end InputStaging
