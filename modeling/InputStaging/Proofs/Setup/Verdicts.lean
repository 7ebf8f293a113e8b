import InputStaging.Proofs.Document.Readers
import InputStaging.Proofs.Document.Refusals
import InputStaging.Proofs.Setup.Directories
import InputStaging.Proofs.Setup.Spared

/-!
# Verdicts on settings

A document holds settings, or it is said what is wrong with it. Most of what can be wrong is put
down to the document. Three things are not, so that a run breaks off over them: a setting whose
name is no text, an execution root in a home directory that is not known, and one that is relative
to a working directory which the system cannot tell.
-/

namespace InputStaging

namespace Settings

open Document

variable {e : Environment} {fe : FrontEnd} {source : String} {d : Document}
  {es : List (Document × Document)}

/-! ## Fields -/

/-- All settings have a text for a name. -/
def Named (es : List (Document × Document)) : Prop := ∀ entry ∈ es, entry.1.isText = true

/-- The execution root is in a home directory that is not known. -/
def Homeless (e : Environment) (es : List (Document × Document)) : Prop :=
  ∃ text, rootDocument es = .text text ∧ e.directory text = .error .homeUnknown

/-- The execution root is relative, once variables and a home directory are put in, and the
system cannot tell to what. -/
def Stranded (e : Environment) (es : List (Document × Document)) (fault : FileFault) : Prop :=
  e.lost = some fault ∧ ∃ text p, rootDocument es = .text text ∧
    Environment.Speakable text.toList ∧
    e.expandHome (.ofString (String.ofList (e.expand text.toList))) = .ok p ∧
    p.isAbsolute = false

/-- The places at which something can be wrong with settings. -/
def places : List (List Step) :=
  [[.field "exec_root"], [.field "strict"], [.field "relative_symlink_policy"],
   [.field "conflict_mode"], [.field "max_concurrent_mappings"]]

/-- The execution root is what its reader makes of it, and each violation names the field that it
is about, no field twice and in their order. -/
structure Orderly (fe : FrontEnd) : Prop where
  root : ∀ (read : Reader String) es w, fe.settings read es = .ok w →
    read (rootDocument es) = .ok w.execRoot
  located : ∀ (read : Reader String) es, (∀ d, (read d).FaultyAt [[]]) →
    (fe.settings read es).FaultyAt places

theorem readField_root (read : Reader String) (es : List (Document × Document)) :
    readField "exec_root" (read (.text ".")) read es =
      (read (rootDocument es)).under (.field "exec_root") := by
  unfold readField rootDocument
  cases valueOf? es "exec_root" <;> rfl

/-- The schema of this library has both. -/
theorem orderly_own (order : SetOrder) : Orderly (.own order) := by
  constructor
  case root =>
    intro read es w h
    have hfields : (Written.readFields read es).Ensures fun w =>
        readField "exec_root" (read (.text ".")) read es = .ok w.execRoot := by
      refine Checked.Ensures.map ?_
      have hroot : (readField "exec_root" (read (.text ".")) read es).Ensures fun text =>
          readField "exec_root" (read (.text ".")) read es = .ok text := fun _ hr => hr
      rintro ⟨⟨⟨⟨text, strict⟩, policy⟩, mode⟩, limit⟩ hall
      exact ((((hroot.and (Checked.ensures_any _)).and (Checked.ensures_any _)).and
        (Checked.ensures_any _)).and (Checked.ensures_any _) _ hall).1.1.1.1
    have hroot := hfields w h
    rw [readField_root] at hroot
    cases hread : read (rootDocument es) with
    | error vs => simp [hread, Checked.under] at hroot
    | ok text =>
      rw [hread] at hroot
      exact hroot
  case located =>
    intro read es hread
    have hroot := readField_faultyAt "exec_root" (hread (.text ".")) hread es
    have hstrict := readField_faultyAt "strict" (Checked.faultyAt_ok false) readBool_faultyAt es
    have hpolicy := readField_faultyAt "relative_symlink_policy"
      (Checked.faultyAt_ok ⟨EscapePolicy.error, by decide⟩)
      (readName_faultyAt Written.policies .member) es
    have hmode := readField_faultyAt "conflict_mode" (Checked.faultyAt_ok ConflictMode.overwrite)
      (readName_faultyAt Written.modes .literal) es
    have hlimit := readField_faultyAt "max_concurrent_mappings" (Checked.faultyAt_ok none)
      (orNull_faultyAt readPositive_faultyAt) es
    exact ((((hroot.and hstrict).and hpolicy).and hmode).and hlimit).map _

/-! ## Execution roots -/

theorem readDirectory_faultyAt (e : Environment) (d : Document) :
    (readDirectory e d).FaultyAt [[]] := by
  unfold readDirectory
  split
  · split
    · exact Checked.faultyAt_refuse _
    · exact Checked.faultyAt_ok _
  · exact Checked.faultyAt_refuse _

theorem readDirectory_eq_ok {text : String} (h : readDirectory e d = .ok text) :
    d = .text text ∧ e.directory text ≠ .error .unspeakable := by
  unfold readDirectory at h
  split at h
  next s =>
    split at h
    next hs => cases h
    next hs =>
      obtain rfl := Except.ok.inj h
      exact ⟨rfl, hs⟩
  next => cases h

theorem stranded_iff {fault : FileFault} : Stranded e es fault ↔
    ∃ text, rootDocument es = .text text ∧ e.directory text = .error (.lost fault) := by
  simp only [Environment.directory_eq_lost_iff, Stranded]
  constructor
  · rintro ⟨hlost, text, p, htext, hs, hp, hrelative⟩
    exact ⟨text, htext, hlost, hs, p, hp, hrelative⟩
  · rintro ⟨text, htext, hlost, hs, p, hp, hrelative⟩
    exact ⟨hlost, text, p, htext, hs, hp, hrelative⟩

/-- Of the ways in which a text can name no directory, two break off. -/
theorem brokenOff?_eq_some_iff {f : SetupFailure} : brokenOff? e es = some f ↔
    (f = .homeUnknown ∧ Homeless e es) ∨ ∃ fault, f = .file fault ∧ Stranded e es fault := by
  simp only [Homeless, stranded_iff]
  unfold brokenOff?
  cases hroot : rootDocument es with
  | text root =>
    dsimp only
    cases hdir : e.directory root with
    | ok found => simp [hdir]
    | error fault => cases fault <;> simp [hdir, breakage?, eq_comm]
  | _ => simp

theorem brokenOff?_eq_none_iff :
    brokenOff? e es = none ↔ ¬ Homeless e es ∧ ∀ fault, ¬ Stranded e es fault := by
  simp only [Option.eq_none_iff_forall_ne_some, ne_eq, brokenOff?_eq_some_iff]
  constructor
  · exact fun h => ⟨fun hhome => h _ (.inl ⟨rfl, hhome⟩),
      fun fault hlost => h _ (.inr ⟨fault, rfl, hlost⟩)⟩
  · rintro ⟨hhome, hlost⟩ f (⟨-, h⟩ | ⟨fault, -, h⟩)
    · exact hhome h
    · exact hlost fault h

/-- The name of an execution root that is read, and over which nothing breaks off, names one. -/
theorem directory_of_settings (hfe : Orderly fe) {w : Written} (hbroken : brokenOff? e es = none)
    (h : fe.settings (readDirectory e) es = .ok w) : ∃ root, e.directory w.execRoot = .ok root := by
  obtain ⟨htext, hspeakable⟩ := readDirectory_eq_ok (hfe.root _ es w h)
  unfold brokenOff? at hbroken
  rw [htext] at hbroken
  dsimp only at hbroken
  cases hdir : e.directory w.execRoot with
  | ok root => exact ⟨root, rfl⟩
  | error fault =>
    rw [hdir] at hbroken
    cases fault with
    | unspeakable => exact absurd hdir hspeakable
    | homeUnknown => cases hbroken
    | lost f => cases hbroken

/-! ## Verdicts -/

theorem sectionOf_eq_error {f : SetupFailure} (h : sectionOf source d = .error f) :
    f = .sectionNotMapping source ∨ f = .settingsNotMapping source d.typeName := by
  unfold sectionOf at h
  split at h
  · split at h
    · cases h
    · exact .inl (Except.error.inj h).symm
  · exact .inr (Except.error.inj h).symm

/-- What a verdict rests on. -/
inductive Verdict (e : Environment) (fe : FrontEnd) (source : String) (d : Document) :
    Except SetupFailure Settings → Prop
  | shapeless {f : SetupFailure} : sectionOf source d = .error f →
      Verdict e fe source d (.error f)
  | unnamed {es : List (Document × Document)} : sectionOf source d = .ok es → ¬ Named es →
      Verdict e fe source d (.error .settingUnnamed)
  | broken {es : List (Document × Document)} {f : SetupFailure} : sectionOf source d = .ok es →
      Named es → brokenOff? e es = some f → Verdict e fe source d (.error f)
  | invalid {es : List (Document × Document)} {vs : List Violation} :
      sectionOf source d = .ok es → Named es → brokenOff? e es = none →
      fe.settings (readDirectory e) es = .error vs →
      Verdict e fe source d (.error (.settingsInvalid source vs))
  | settings {es : List (Document × Document)} {w : Written}
      {root : { p : Path // p.isAbsolute = true }} :
      sectionOf source d = .ok es → Named es → brokenOff? e es = none →
      fe.settings (readDirectory e) es = .ok w → e.directory w.execRoot = .ok root →
      Verdict e fe source d (.ok (w.rootedAt root))

theorem verdict (hfe : Orderly fe) (e : Environment) (source : String) (d : Document) :
    Verdict e fe source d (ofDocument e source d fe) := by
  cases hsection : sectionOf source d with
  | error f =>
    unfold ofDocument
    rw [hsection]
    exact .shapeless hsection
  | ok es =>
    have hall : (es.all fun entry => entry.1.isText) = true ↔ Named es := List.all_eq_true
    unfold ofDocument
    rw [hsection]
    change Verdict e fe source d (if _ then _ else Except.error SetupFailure.settingUnnamed)
    split
    next hnames =>
      have hnamed := hall.mp hnames
      change Verdict e fe source d (judge e (.settingsInvalid source) es fe)
      unfold judge
      cases hbroken : brokenOff? e es with
      | some f => exact .broken hsection hnamed hbroken
      | none =>
        cases hread : fe.settings (readDirectory e) es with
        | error vs => exact .invalid hsection hnamed hbroken hread
        | ok w =>
          obtain ⟨root, hroot⟩ := directory_of_settings hfe hbroken hread
          have hsettings : w.settings e (.settingsInvalid source) = .ok (w.rootedAt root) := by
            rw [Written.settings, hroot]
            rfl
          change Verdict e fe source d (w.settings e (.settingsInvalid source))
          rw [hsettings]
          exact .settings hsection hnamed hbroken hread hroot
    next hnames => exact .unnamed hsection (mt hall.mpr hnames)

/-- What a verdict rests on speaks for no other verdict. -/
theorem Verdict.unique {r r' : Except SetupFailure Settings} (h : Verdict e fe source d r)
    (h' : Verdict e fe source d r') : r = r' := by
  cases h <;> cases h' <;> grind

theorem ofDocument_eq_iff (hfe : Orderly fe) {r : Except SetupFailure Settings} :
    ofDocument e source d fe = r ↔ Verdict e fe source d r :=
  ⟨fun h => h ▸ verdict hfe e source d, (verdict hfe e source d).unique⟩

theorem ofDocument_eq_settingUnnamed_iff (hfe : Orderly fe) :
    ofDocument e source d fe = .error .settingUnnamed ↔
      ∃ es, sectionOf source d = .ok es ∧ ¬ Named es := by
  rw [ofDocument_eq_iff hfe]
  constructor
  · intro h
    cases h with
    | shapeless hsection => rcases sectionOf_eq_error hsection with hf | hf <;> cases hf
    | unnamed hsection hnames => exact ⟨_, hsection, hnames⟩
    | broken _ _ hbroken => simp [brokenOff?_eq_some_iff] at hbroken
  · rintro ⟨es, hsection, hnames⟩
    exact .unnamed hsection hnames

/-- What breaks off is neither about the shape of the document nor about the names in it. -/
theorem ofDocument_eq_broken_iff (hfe : Orderly fe) {f : SetupFailure}
    (hf : f = .homeUnknown ∨ ∃ fault, f = .file fault) : ofDocument e source d fe = .error f ↔
      ∃ es, sectionOf source d = .ok es ∧ Named es ∧ brokenOff? e es = some f := by
  rw [ofDocument_eq_iff hfe]
  constructor
  · intro h
    cases h with
    | shapeless hsection =>
      rcases sectionOf_eq_error hsection with rfl | rfl <;> rcases hf with hf | ⟨_, hf⟩ <;> cases hf
    | unnamed => rcases hf with hf | ⟨_, hf⟩ <;> cases hf
    | broken hsection hnamed hbroken => exact ⟨_, hsection, hnamed, hbroken⟩
    | invalid => rcases hf with hf | ⟨_, hf⟩ <;> cases hf
  · rintro ⟨es, hsection, hnamed, hbroken⟩
    exact .broken hsection hnamed hbroken

theorem ofDocument_eq_homeUnknown_iff (hfe : Orderly fe) :
    ofDocument e source d fe = .error .homeUnknown ↔
      ∃ es, sectionOf source d = .ok es ∧ Named es ∧ Homeless e es := by
  rw [ofDocument_eq_broken_iff hfe (.inl rfl)]
  simp [brokenOff?_eq_some_iff]

theorem ofDocument_eq_file_iff (hfe : Orderly fe) {fault : FileFault} :
    ofDocument e source d fe = .error (.file fault) ↔
      ∃ es, sectionOf source d = .ok es ∧ Named es ∧ Stranded e es fault := by
  rw [ofDocument_eq_broken_iff hfe (.inr ⟨fault, rfl⟩)]
  simp [brokenOff?_eq_some_iff]

theorem ofDocument_isOk_iff (hfe : Orderly fe) : (∃ s, ofDocument e source d fe = .ok s) ↔
    ∃ es w, sectionOf source d = .ok es ∧ Named es ∧ ¬ Homeless e es ∧
      (∀ fault, ¬ Stranded e es fault) ∧ fe.settings (readDirectory e) es = .ok w := by
  simp only [ofDocument_eq_iff hfe]
  constructor
  · rintro ⟨s, h⟩
    cases h with
    | settings hsection hnamed hbroken hread =>
      obtain ⟨hhome, hlost⟩ := brokenOff?_eq_none_iff.mp hbroken
      exact ⟨_, _, hsection, hnamed, hhome, hlost, hread⟩
  · rintro ⟨es, w, hsection, hnamed, hhome, hlost, hread⟩
    have hbroken := brokenOff?_eq_none_iff.mpr ⟨hhome, hlost⟩
    obtain ⟨root, hroot⟩ := directory_of_settings hfe hbroken hread
    exact ⟨_, .settings hsection hnamed hbroken hread hroot⟩

/-- What a failure can be. -/
theorem ofDocument_eq_error (hfe : Orderly fe) {f : SetupFailure}
    (h : ofDocument e source d fe = .error f) :
    f = .settingsNotMapping source d.typeName ∨ f = .sectionNotMapping source ∨
      (∃ vs, vs ≠ [] ∧ (vs.map Violation.location).Sublist places ∧
        f = .settingsInvalid source vs) ∨
      f = .settingUnnamed ∨ f = .homeUnknown ∨
      ∃ fault, e.lost = some fault ∧ f = .file fault := by
  cases (ofDocument_eq_iff hfe).mp h with
  | shapeless hsection =>
    rcases sectionOf_eq_error hsection with rfl | rfl
    · exact .inr (.inl rfl)
    · exact .inl rfl
  | unnamed => simp
  | broken hsection hnamed hbroken =>
    rcases brokenOff?_eq_some_iff.mp hbroken with ⟨rfl, -⟩ | ⟨fault, rfl, hlost, -⟩
    · simp
    · simp [hlost]
  | invalid hsection hnamed hbroken hread =>
    obtain ⟨hne, hplaces⟩ := hfe.located _ _ (readDirectory_faultyAt e) _ hread
    exact .inr (.inr (.inl ⟨_, hne, hplaces, rfl⟩))

/-- Whether all failures are put down to the document. -/
theorem isConfiguration_iff (hfe : Orderly fe) :
    (∀ f, ofDocument e source d fe = .error f → f.isConfiguration = true) ↔
      ∀ es, sectionOf source d = .ok es →
        Named es ∧ ¬ Homeless e es ∧ ∀ fault, ¬ Stranded e es fault := by
  constructor
  · intro hall es hsection
    have hnamed : Named es := Classical.byContradiction fun hnames =>
      nomatch hall _ ((ofDocument_eq_settingUnnamed_iff hfe).mpr ⟨es, hsection, hnames⟩)
    refine ⟨hnamed, fun hhome => ?_, fun fault hlost => ?_⟩
    · cases hall _ ((ofDocument_eq_homeUnknown_iff hfe).mpr ⟨es, hsection, hnamed, hhome⟩)
    · cases hall _ ((ofDocument_eq_file_iff hfe).mpr ⟨es, hsection, hnamed, hlost⟩)
  · intro hall f hf
    rcases ofDocument_eq_error hfe hf with rfl | rfl | ⟨vs, -, -, rfl⟩ | rfl | rfl | ⟨fault, -, rfl⟩
    · rfl
    · rfl
    · rfl
    · obtain ⟨es, hsection, hnames⟩ := (ofDocument_eq_settingUnnamed_iff hfe).mp hf
      exact absurd (hall es hsection).1 hnames
    · obtain ⟨es, hsection, -, hhome⟩ := (ofDocument_eq_homeUnknown_iff hfe).mp hf
      exact absurd hhome (hall es hsection).2.1
    · obtain ⟨es, hsection, -, hlost⟩ := (ofDocument_eq_file_iff hfe).mp hf
      exact absurd hlost ((hall es hsection).2.2 fault)

end Settings

namespace CommandLine

variable {e : Environment} {fe : FrontEnd} {o : Options} {file : Path} {d : Document}
  {f : SetupFailure}

/-- A run whose settings are at fault ends over them, and over nothing else. -/
theorem run_of_settings (hfile : Settings.file? e o.config = some file)
    (hd : e.document file fe = .ok d) (hf : Settings.ofDocument e file.text d fe = .error f) :
    (run e o fe).ending =
      if f.isConfiguration then .exit Ending.configuration else .brokeOff (.setup f) := by
  have hload : Settings.load e o.config fe = (.error f, []) := by
    unfold Settings.load
    rw [hfile]
    dsimp only
    rw [hd]
    dsimp only
    rw [hf]
  have hprepare : prepare e o fe = (.error f, []) := by
    unfold prepare
    rw [hload]
  have hspared : ∀ failure, f ≠ .expansion failure := fun failure he =>
    Settings.spared_ofDocument e file.text d fe failure (hf.trans (congrArg _ he))
  unfold run
  rw [hprepare]
  exact setupFailed_ending hspared []

end CommandLine

namespace Settings

open Document

/-- How a document with settings is dealt with. -/
structure Disciplined (e : Environment) (fe : FrontEnd) (source : String) (d : Document) :
    Prop where
  returns : (∃ s, ofDocument e source d fe = .ok s) ↔
    ∃ es w, sectionOf source d = .ok es ∧ Named es ∧ ¬ Homeless e es ∧
      (∀ fault, ¬ Stranded e es fault) ∧ fe.settings (readDirectory e) es = .ok w
  /-- What is put down to the document says which one it is and, of its fields, which are wrong. -/
  reported : ∀ f, ofDocument e source d fe = .error f → f.isConfiguration = true →
    f = .settingsNotMapping source d.typeName ∨ f = .sectionNotMapping source ∨
      ∃ vs, vs ≠ [] ∧ (vs.map Violation.location).Sublist places ∧ f = .settingsInvalid source vs
  /-- Nothing but these three is not put down to the document. -/
  apart : ∀ f, ofDocument e source d fe = .error f → f.isConfiguration = false →
    f = .settingUnnamed ∨ f = .homeUnknown ∨ ∃ fault, e.lost = some fault ∧ f = .file fault
  unnamed : ofDocument e source d fe = .error .settingUnnamed ↔
    ∃ es, sectionOf source d = .ok es ∧ ¬ Named es
  homeless : ofDocument e source d fe = .error .homeUnknown ↔
    ∃ es, sectionOf source d = .ok es ∧ Named es ∧ Homeless e es
  stranded : ∀ fault, ofDocument e source d fe = .error (.file fault) ↔
    ∃ es, sectionOf source d = .ok es ∧ Named es ∧ Stranded e es fault
  /-- So every failure is, unless the section has a name that is no text, or an execution root
  in an unknown home or in a working directory that cannot be told. -/
  always : (∀ f, ofDocument e source d fe = .error f → f.isConfiguration = true) ↔
    ∀ es, sectionOf source d = .ok es →
      Named es ∧ ¬ Homeless e es ∧ ∀ fault, ¬ Stranded e es fault
  /-- A run over the document ends with the status for it exactly if it is at fault. -/
  ends : ∀ o file, file? e o.config = some file → e.document file fe = .ok d →
    file.text = source → ∀ f, ofDocument e source d fe = .error f →
      (CommandLine.run e o fe).ending =
        if f.isConfiguration then .exit CommandLine.Ending.configuration else .brokeOff (.setup f)

/-- Whatever settings are read with, as long as it is orderly about the execution root and about
where it finds fault. -/
theorem disciplined (hfe : Orderly fe) (e : Environment) (source : String) (d : Document) :
    Disciplined e fe source d := by
  constructor
  case returns => exact ofDocument_isOk_iff hfe
  case reported =>
    intro f hf hc
    rcases ofDocument_eq_error hfe hf with h | h | h | rfl | rfl | ⟨_, -, rfl⟩
    · exact .inl h
    · exact .inr (.inl h)
    · exact .inr (.inr h)
    · cases hc
    · cases hc
    · cases hc
  case apart =>
    intro f hf hc
    rcases ofDocument_eq_error hfe hf with rfl | rfl | ⟨vs, -, -, rfl⟩ | h | h | h
    · cases hc
    · cases hc
    · cases hc
    · exact .inl h
    · exact .inr (.inl h)
    · exact .inr (.inr h)
  case unnamed => exact ofDocument_eq_settingUnnamed_iff hfe
  case homeless => exact ofDocument_eq_homeUnknown_iff hfe
  case stranded => exact fun fault => ofDocument_eq_file_iff hfe
  case always => exact isConfiguration_iff hfe
  case ends =>
    rintro o file hfile hd rfl f hf
    exact CommandLine.run_of_settings hfile hd hf

/-- Nothing is set, and no home directory is known. -/
def bare : Environment := { workingDirectory := .ofString "/srv", rooted := by decide }

/-- The working directory has been removed. -/
def removed : Environment := { bare with lost := some .missing }

/-- Where the working directory has been removed, a document that says nothing of the execution
root has a relative one, and an absolute one is found as ever. -/
theorem disciplined_where_removed :
    Orderly .own ∧
    ofDocument removed "<config>" (.mapping []) = .error (.file .missing) ∧
    ∃ s, ofDocument removed "<config>" (.mapping [(.text "exec_root", .text "/x")]) = .ok s := by
  have hown : Orderly .own := orderly_own .written
  have hdefault := disciplined hown removed "<config>" (.mapping [])
  have hnamed := disciplined hown removed "<config>" (.mapping [(.text "exec_root", .text "/x")])
  have hdot : removed.directory "." = .error (.lost .missing) := by
    rw [Environment.directory_dot]
    rfl
  have hroot : removed.directory "/x" = .ok ⟨.ofString "/x", by decide⟩ := by
    rw [Environment.directory_of_noDollar (by decide)]
    rfl
  have hread : readDirectory removed (.text "/x") = .ok "/x" := by
    simp only [readDirectory, hroot]
  have hbroken : brokenOff? removed [(.text "exec_root", .text "/x")] = none := by
    unfold brokenOff?
    rw [show rootDocument _ = .text "/x" from rfl]
    simp only [hroot]
  obtain ⟨hhome, hlost⟩ := brokenOff?_eq_none_iff.mp hbroken
  refine ⟨hown, (hdefault.stranded .missing).mpr ⟨[], rfl, by simp [Named], ?_⟩,
    hnamed.returns.mpr ⟨_, { execRoot := "/x" }, rfl, by simp [Named, isText], hhome, hlost, ?_⟩⟩
  · exact stranded_iff.mpr ⟨".", rfl, hdot⟩
  · show Written.readFields (readDirectory removed) _ = _
    unfold Written.readFields
    rw [readField_root]
    show Except.map _
      ((((((readDirectory removed (.text "/x")).under _).and _).and _).and _).and _) = _
    rw [hread]
    rfl

/-- A setting that has a number for a name, and an execution root in the home of a stranger. -/
theorem failures_apart :
    (¬ ∀ e source d f, ofDocument e source d = .error f → f.isConfiguration = true) ∧
    ofDocument bare "<config>" (.mapping [(.int 5, .int 1)]) = .error .settingUnnamed ∧
    ofDocument bare "<config>" (.mapping [(.text "exec_root", .text "~x/y")]) =
      .error .homeUnknown := by
  have hown : Orderly .own := orderly_own .written
  have hunnamed : ofDocument bare "<config>" (.mapping [(.int 5, .int 1)]) =
      .error .settingUnnamed :=
    (ofDocument_eq_settingUnnamed_iff hown).mpr ⟨[(.int 5, .int 1)], rfl, by simp [Named, isText]⟩
  have hhomeless : ofDocument bare "<config>" (.mapping [(.text "exec_root", .text "~x/y")]) =
      .error .homeUnknown := by
    refine (ofDocument_eq_homeUnknown_iff hown).mpr
      ⟨[(.text "exec_root", .text "~x/y")], rfl, ?_, ?_⟩
    · simp [Named, isText]
    · refine ⟨"~x/y", rfl, ?_⟩
      rw [Environment.directory_of_noDollar (by decide)]
      rfl
  refine ⟨fun hall => ?_, hunnamed, hhomeless⟩
  cases hall _ _ _ _ hunnamed

end Settings

end InputStaging
