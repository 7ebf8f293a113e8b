import InputStaging.Proofs.Containment
import InputStaging.Proofs.Mounts

/-!
# Strict engines

A strict engine asks what stands behind the plain runfiles, and behind nothing else. Otherwise it
does what one that is not strict does: it carries out the same steps, or it breaks off at the first
plain runfile that it does not accept.
-/

namespace InputStaging

/-- The plain files among the runfiles of an action. -/
def Action.files (action : Action) : List Artifact :=
  action.runfiles.entries.flatMap fun root =>
    root.2.entries.filterMap fun entry => entry.2.filter (·.kind = .file)

theorem Action.mem_files_iff {action : Action} {a : Artifact} :
    a ∈ action.files ↔ ∃ root ∈ action.runfiles.entries, ∃ entry ∈ root.2.entries,
      entry.2 = some a ∧ a.kind = .file := by
  simp only [files, List.mem_flatMap, List.mem_filterMap, Option.filter_eq_some_iff,
    decide_eq_true_eq]

/-- There is a file behind the artifact, or nothing yet. -/
def Metadata.Accepts (metadata : Metadata) (a : Artifact) : Prop :=
  metadata (.artifact a) = .ok .file ∨ metadata (.artifact a) = .ok .absent

namespace Engine

variable {e e' : Engine} {action : Action} {x : Expander} {base : Option Spelling}
  {metadata metadata' : Metadata} {a : Artifact}

def strictly (e : Engine) (strict : Bool) : Engine := { e with strict }

/-! ## The check of one file -/

/-- What an engine checks of a plain runfile. -/
def check (e : Engine) (metadata : Metadata) (a : Artifact) : Script Unit :=
  if e.strict then checkScript metadata a else pure ()

/-- What is accepted passes the check without a trace. -/
theorem checkScript_of_accepts (h : metadata.Accepts a) : checkScript metadata a = pure () := by
  unfold checkScript
  rcases h with h | h
  · rw [h]
    rfl
  · rw [h]
    rfl

/-- What passes the check is accepted. -/
theorem accepts_of_checkScript (h : (checkScript metadata a).outcome = .ok ()) :
    metadata.Accepts a := by
  obtain ⟨type, htype, hcheck⟩ := Script.bind_outcome.mp h
  have hmetadata : metadata (.artifact a) = .ok type := htype
  cases type with
  | file => exact .inl hmetadata
  | absent => exact .inr hmetadata
  | directory => cases hcheck
  | symlink => cases hcheck

theorem checkScript_congr (h : metadata' (.artifact a) = metadata (.artifact a)) :
    checkScript metadata' a = checkScript metadata a := by
  unfold checkScript
  rw [h]

/-! ## Engines that check alike -/

theorem runfileScript_file (location : Path) (hkind : a.kind = .file) :
    e.runfileScript metadata x location (some a) =
      e.check metadata a >>= fun _ => Script.staging [(location, .artifact a)] := by
  unfold runfileScript check
  simp only [hkind]
  cases e.strict with
  | true => rfl
  | false => rfl

/-- Of all runfiles only a plain file is asked about. -/
theorem runfileScript_congr (hresolver : e'.resolver = e.resolver) {entry : Option Artifact}
    (hcheck : ∀ a, entry = some a → a.kind = .file → e'.check metadata' a = e.check metadata a)
    (location : Path) : e'.runfileScript metadata' x location entry =
      e.runfileScript metadata x location entry := by
  cases entry with
  | none => rfl
  | some a =>
    cases hkind : a.kind with
    | file =>
      rw [runfileScript_file location hkind, runfileScript_file location hkind,
        hcheck a rfl hkind]
    | tree => simp only [runfileScript, hkind]
    | fileset => simp only [runfileScript, hkind, hresolver]
    | other label => simp only [runfileScript, hkind]

theorem script_congr (hresolver : e'.resolver = e.resolver)
    (hcheck : ∀ a ∈ action.files, e'.check metadata' a = e.check metadata a) :
    e'.script action x metadata' = e.script action x metadata := by
  have hroots : Script.sum (e'.rootScript metadata' x) action.runfiles.entries =
      Script.sum (e.rootScript metadata x) action.runfiles.entries := by
    refine Script.sum_congr fun root hroot => ?_
    unfold rootScript
    refine bind_congr fun path => Script.sum_congr fun entry hentry => ?_
    unfold belowScript
    refine bind_congr fun relative => ?_
    refine runfileScript_congr hresolver (fun a ha hkind => hcheck a ?_) _
    exact Action.mem_files_iff.mpr ⟨root, hroot, entry, hentry, ha, hkind⟩
  have hmounts : e'.mountScript = e.mountScript := by
    funext mount
    rw [mountScript, mountScript, hresolver]
  unfold script
  rw [hroots, hmounts]

/-- Engines that check every plain runfile alike make the same calls. -/
theorem map_congr (hresolver : e'.resolver = e.resolver)
    (hmode : e'.conflictMode = e.conflictMode)
    (hcheck : ∀ a ∈ action.files, e'.check metadata' a = e.check metadata a) :
    e'.map action x base metadata' = e.map action x base metadata := by
  have hstart : e'.start = e.start := by rw [start, start, hmode]
  unfold map
  rw [run_eq, run_eq, script_congr hresolver hcheck, hstart]

/-! ## Strict engines and others -/

/-- Where all plain files are accepted, it makes no difference to be strict. -/
theorem map_of_accepts (h : ∀ a ∈ action.files, metadata.Accepts a) :
    (e.strictly true).map action x base metadata =
      (e.strictly false).map action x base metadata :=
  map_congr rfl rfl fun a ha => checkScript_of_accepts (h a ha)

/-- A strict engine that returns has come by every plain runfile. -/
theorem accepts_of_map {result : List (Path × Input)} (hstrict : e.strict = true)
    (h : (e.map action x base metadata).1 = .ok result) (ha : a ∈ action.files) :
    metadata.Accepts a := by
  obtain ⟨root, hroot, entry, hentry, hsome, hkind⟩ := Action.mem_files_iff.mp ha
  obtain ⟨-, -, -, -, ⟨counts, hok⟩, -, -⟩ := passed_of_map h
  obtain ⟨-, n, hrunfile⟩ := runfileScript_of_script hok hroot hentry
  rw [hsome, runfileScript_file _ hkind] at hrunfile
  obtain ⟨_, hcheck, -⟩ := Script.bind_outcome.mp hrunfile
  rw [check, if_pos hstrict] at hcheck
  exact accepts_of_checkScript hcheck

/-- A call by a strict engine beside the same call by one that is not. -/
structure Filters (e : Engine) (action : Action) (x : Expander) (base : Option Spelling)
    (metadata : Metadata) : Prop where
  /-- The strict one returns the same, where there is a file or nothing behind each plain
  runfile, and else it does not return. -/
  returns : ∀ result, ((e.strictly true).map action x base metadata).1 = .ok result ↔
    ((e.strictly false).map action x base metadata).1 = .ok result ∧
      ∀ a ∈ action.files, metadata.Accepts a
  /-- The other one asks nothing. -/
  unasked : ∀ metadata', (e.strictly false).map action x base metadata' =
    (e.strictly false).map action x base metadata
  /-- The strict one asks for nothing but plain runfiles. -/
  asked : ∀ metadata', (∀ a ∈ action.files, metadata' (.artifact a) = metadata (.artifact a)) →
    (e.strictly true).map action x base metadata' = (e.strictly true).map action x base metadata

theorem strict_filters (e : Engine) (action : Action) (x : Expander) (base : Option Spelling)
    (metadata : Metadata) : e.Filters action x base metadata where
  returns result := by
    constructor
    · intro h
      have haccepts : ∀ a ∈ action.files, metadata.Accepts a :=
        fun a ha => accepts_of_map (e := e.strictly true) rfl h ha
      rw [map_of_accepts haccepts] at h
      exact ⟨h, haccepts⟩
    · rintro ⟨h, haccepts⟩
      rw [map_of_accepts haccepts]
      exact h
  unasked metadata' := map_congr rfl rfl fun _ _ => rfl
  asked metadata' hsame := map_congr rfl rfl fun a ha => checkScript_congr (hsame a ha)

/-- A direct input, an entry of every kind below the runfiles, and a fileset of its own. -/
def guarded : Action where
  inputs := [{ execPath := .ofString "d" }]
  runfiles := .ofList [(.ofString "r", .ofList [(.ofString "n", none),
    (.ofString "p", some { execPath := .ofString "q" }), (.ofString "t", some tree),
    (.ofString "f", some fileset)])]
  filesets := .ofList [(fileset, [⟨.ofString "n", some "/s", false⟩])]

/-- There is nothing behind one file, and it is an error to ask for anything else. -/
def reluctant : Metadata := fun v =>
  if v = .artifact { execPath := .ofString "q" } then .ok .absent
  else .error (.metadata "asked for")

theorem strict_filters_guarded :
    (∃ result, ((lenient.strictly true).map guarded expander none reluctant).1 = .ok result ∧
      ((lenient.strictly false).map guarded expander none fun _ => .ok .directory).1 =
        .ok result) ∧
    ¬ ∃ result, ((lenient.strictly true).map guarded expander none fun _ => .ok .directory).1 =
      .ok result := by
  have hok : ((lenient.strictly true).map guarded expander none reluctant).1.toOption.isSome =
      true := by decide +kernel
  obtain ⟨result, hresult⟩ := Option.isSome_iff_exists.mp hok
  have hfilters := strict_filters lenient guarded expander none reluctant
  have hstrict := ok_of_toOption hresult
  obtain ⟨hlax, -⟩ := (hfilters.returns result).mp hstrict
  refine ⟨⟨result, hstrict, ?_⟩, ?_⟩
  · rw [hfilters.unasked]
    exact hlax
  · rintro ⟨result', h⟩
    have hrefused := strict_filters lenient guarded expander none fun _ => .ok .directory
    obtain ⟨-, haccepts⟩ := (hrefused.returns result').mp h
    rcases haccepts { execPath := .ofString "q" } (by decide) with hfile | habsent
    · cases hfile
    · cases habsent

end Engine

end InputStaging
