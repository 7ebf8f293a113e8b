import InputStaging.CommandLine.Session
import InputStaging.Proofs.Document.Readers
import InputStaging.Proofs.Faults
import InputStaging.Proofs.Setup.Spared

/-!
# Closed descriptions

A description that has been loaded brings along all that a call will ask for. References go
by their spelling, registrations by path and kind; they meet because an artifact is looked
up as it was registered, and what is not declared is a plain file.
-/

namespace InputStaging

theorem Table.mem_of_mem_ofList {κ α : Type} [DecidableEq κ] {l : List (κ × α)} {e : κ × α}
    (h : e ∈ (ofList l).entries) : e ∈ l := by
  have hfind : (ofList l).get? e.1 = some e.2 := (find_eq_some_iff (ofList l).nodup).mpr h
  rw [get?_ofList] at hfind
  exact List.mem_reverse.mp (mem_of_find hfind)

namespace Outline

variable {o : Outline}

/-! ## Declared kinds -/

/-- All artifacts are declared to be of a kind that is known. -/
def Kinded (o : Outline) : Prop := ∀ e ∈ o.artifacts, e.2.kind ∈ Kind.known

theorem readDeclared_ensures (d : Document) :
    (readDeclared d).Ensures fun declared => declared.kind ∈ Kind.known := by
  refine Document.readRecord_ensures (fun es => Checked.Ensures.map ?_) d
  have hname : ∀ d, (Document.readName kinds .member d).Ensures (· ∈ Kind.known) :=
    Document.readName_ensures kinds .member
  have hplain : Checked.Ensures (.ok Kind.file) (· ∈ Kind.known) :=
    Checked.ensures_ok (by decide)
  have hkind := Document.readField_ensures hplain hname "kind" es
  rintro ⟨⟨⟨kind, type⟩, members⟩, links⟩ hread
  exact (((hkind.and (Checked.ensures_any _)).and (Checked.ensures_any _)).and
    (Checked.ensures_any _) _ hread).1.1.1

theorem readFields_ensures (es : List (Document × Document)) :
    (readFields es).Ensures Kinded := by
  refine Checked.Ensures.map ?_
  have hnone : Checked.Ensures (.ok ([] : List (String × Declared)))
      fun entries => ∀ e ∈ entries, e.2.kind ∈ Kind.known := Checked.ensures_ok (by simp)
  have hartifacts := Document.readField_ensures hnone
    (Document.readEntries_ensures readDeclared_ensures) "artifacts" es
  rintro ⟨⟨⟨⟨description, artifacts⟩, inputs⟩, runfiles⟩, filesets⟩ hread
  exact ((((Checked.ensures_any _).and hartifacts).and (Checked.ensures_any _)).and
    (Checked.ensures_any _) |>.and (Checked.ensures_any _) _ hread).1.1.1.2

/-- An outline is what the fields say, or the document is at fault. -/
theorem ofDocument_cases (d : Document) (fe : FrontEnd) :
    (∃ es o, fe.outline es = .ok o ∧ ofDocument d fe = .ok o) ∨
      ∃ failure, failure.isConfiguration = true ∧ ofDocument d fe = .error failure := by
  unfold ofDocument
  split
  next es _ =>
    split
    · cases hread : fe.outline es with
      | ok o => exact .inl ⟨es, o, hread, rfl⟩
      | error vs => exact .inr ⟨.descriptionInvalid vs, rfl, rfl⟩
    · exact .inr ⟨.descriptionShapeless, rfl, rfl⟩
  next => exact .inr ⟨.descriptionShapeless, rfl, rfl⟩

/-! ## Registrations -/

variable {r : Registry} {path : String} {declared : Declared} {a : Artifact}

/-- What is known of an artifact is not forgotten over another registration. -/
theorem expands_register (h : r.expander.Expands a) (path : String) (declared : Declared) :
    (register r path declared).expander.Expands a := by
  obtain ⟨htree, hfileset⟩ := h
  simp only [Registry.expander_members?] at htree
  simp only [Registry.expander_links?] at hfileset
  constructor <;> intro hk
  · rw [Registry.expander_members?]
    unfold register
    split
    · simp only [Registry.addTree, Table.get?_insert]
      split
      · rfl
      · exact htree hk
    · exact htree hk
    · exact htree hk
  · rw [Registry.expander_links?]
    unfold register
    split
    · exact hfileset hk
    · simp only [Registry.addFileset, Table.get?_insert]
      split
      · rfl
      · exact hfileset hk
    · exact hfileset hk

theorem expands_of_register (r : Registry) (path : String) (declared : Declared) :
    (register r path declared).expander.Expands (artifactOf path declared) := by
  have hkind : (artifactOf path declared).kind = declared.kind := rfl
  constructor <;> intro hk <;> rw [hkind] at hk
  · simp [register, hk, Registry.addTree, Table.get?_insert]
  · simp [register, hk, Registry.addFileset, Table.get?_insert]

def registerAll (r : Registry) (artifacts : List (String × Declared)) : Registry :=
  artifacts.foldl (fun r (path, declared) => register r path declared) r

theorem expands_registerAll (h : r.expander.Expands a) (artifacts : List (String × Declared)) :
    (registerAll r artifacts).expander.Expands a := by
  induction artifacts generalizing r with
  | nil => exact h
  | cons e rest ih => exact ih (expands_register h e.1 e.2)

/-- A reference means what is declared in its spelling, or a plain file. -/
theorem lookup_cases (o : Outline) (path : String) :
    (∃ declared, (path, declared) ∈ o.artifacts ∧ o.lookup path = artifactOf path declared) ∨
      o.lookup path = ⟨.ofString path, .file⟩ := by
  unfold lookup
  cases hl : o.artifacts.lookup path with
  | none => exact .inr rfl
  | some declared =>
    obtain ⟨pre, post, hsplit, -⟩ := List.lookup_eq_some_iff.mp hl
    exact .inl ⟨declared, by simp [hsplit], rfl⟩

/-- Whatever a reference means, the registry of the outline can expand it. -/
theorem expands_lookup (o : Outline) (path : String) :
    o.registry.expander.Expands (o.lookup path) := by
  rcases o.lookup_cases path with ⟨declared, hmem, hlookup⟩ | hlookup
  · rw [hlookup]
    obtain ⟨pre, post, hsplit⟩ := List.append_of_mem hmem
    have hregistry : o.registry =
        registerAll (register (registerAll {} pre) path declared) post := by
      rw [registry, hsplit, List.foldl_append, List.foldl_cons]
      rfl
    rw [hregistry]
    exact expands_registerAll (expands_of_register _ path declared) post
  · rw [hlookup]
    exact ⟨nofun, nofun⟩

theorem knows_lookup (ho : o.Kinded) (path : String) :
    o.registry.expander.Knows (o.lookup path) := by
  refine ⟨o.expands_lookup path, fun label hk => ?_⟩
  rcases o.lookup_cases path with ⟨declared, hmem, hlookup⟩ | hlookup
  · rw [hlookup] at hk
    have hknown := ho _ hmem
    rw [show declared.kind = .other label from hk] at hknown
    simp [Kind.known] at hknown
  · rw [hlookup] at hk
    cases hk

/-! ## What is listed -/

theorem knows_runfiles (ho : o.Kinded) {root : Path × Table Path (Option Artifact)}
    (hroot : root ∈ o.runfilesTree.entries) {entry : Path × Option Artifact}
    (hentry : entry ∈ root.2.entries) (ha : entry.2 = some a) :
    o.registry.expander.Knows a := by
  obtain ⟨⟨name, entries⟩, -, rfl⟩ := List.mem_map.mp (Table.mem_of_mem_ofList hroot)
  obtain ⟨⟨path, source⟩, -, rfl⟩ := List.mem_map.mp (Table.mem_of_mem_ofList hentry)
  obtain ⟨path, -, rfl⟩ := Option.map_eq_some_iff.mp ha
  exact knows_lookup ho path

/-- A listed fileset that is declared as one is registered, so that its links are there. -/
theorem links_lookup (h : (o.lookup path).isFileset = true) :
    ∃ links, o.registry.expander.links (o.lookup path) = .ok links := by
  have hkind : (o.lookup path).kind = .fileset := of_decide_eq_true h
  obtain ⟨links, hlinks⟩ :=
    Option.isSome_iff_exists.mp ((o.expands_lookup path).fileset hkind)
  exact ⟨links, ok_of_toOption hlinks⟩

/-- A listed fileset is one, and comes with its links. Then the others are seen to. -/
theorem mounts_cons (o : Outline) (path : String) (rest : List String) :
    ((o.lookup path).isFileset = true ∧
      ∃ links, o.registry.expander.links (o.lookup path) = .ok links ∧
        o.mounts (path :: rest) = (o.mounts rest).map ((o.lookup path, links) :: ·)) ∨
    ((o.lookup path).isFileset = false ∧
      o.mounts (path :: rest) = .error (.undeclaredFileset path)) := by
  rw [mounts]
  cases hf : (o.lookup path).isFileset with
  | false => exact .inr ⟨rfl, rfl⟩
  | true =>
    obtain ⟨links, hlinks⟩ := links_lookup hf
    refine .inl ⟨rfl, links, hlinks, ?_⟩
    rw [hlinks]
    cases o.mounts rest <;> rfl

theorem mounts_eq_ok {paths : List String} {mounts : List (Artifact × List Link)}
    (h : o.mounts paths = .ok mounts) : ∀ mount ∈ mounts,
      mount.1.isFileset = true ∧ o.registry.expander.links mount.1 = .ok mount.2 := by
  induction paths generalizing mounts with
  | nil =>
    obtain rfl := Except.ok.inj h
    simp
  | cons path rest ih =>
    rcases o.mounts_cons path rest with ⟨hfileset, links, hlinks, hcons⟩ | ⟨-, hcons⟩
    · rw [hcons] at h
      cases hrest : o.mounts rest with
      | error failure => rw [hrest] at h; cases h
      | ok others =>
        rw [hrest] at h
        obtain rfl := Except.ok.inj h
        exact List.forall_mem_cons.mpr ⟨⟨hfileset, hlinks⟩, ih hrest⟩
    · cases hcons.symm.trans h

/-- Nothing but an undeclared fileset is in the way of the listed ones. In particular, no
expansion is ever found missing. -/
theorem undeclared_of_mounts {paths : List String} {failure : SetupFailure}
    (h : o.mounts paths = .error failure) : ∃ path, failure = .undeclaredFileset path := by
  induction paths with
  | nil => cases h
  | cons path rest ih =>
    rcases o.mounts_cons path rest with ⟨-, links, -, hcons⟩ | ⟨-, hcons⟩
    · rw [hcons] at h
      cases hrest : o.mounts rest with
      | error f =>
        rw [hrest] at h
        obtain rfl := Except.error.inj h
        exact ih hrest
      | ok others => rw [hrest] at h; cases h
    · exact ⟨path, (Except.error.inj (hcons.symm.trans h)).symm⟩

end Outline

open SetupFailure

namespace Description

variable {fe : FrontEnd}

/-- A description is what its outline says, with the filesets that it lists. -/
theorem ofDocument_cases (d : Document) (fe : FrontEnd) :
    (∃ (es : List (Document × Document)) (o : Outline) (mounts : List (Artifact × List Link)),
      fe.outline es = .ok o ∧ o.mounts o.filesets = .ok mounts ∧ ofDocument d fe = .ok {
        action := {
          description := o.description
          inputs := o.inputs.map o.lookup
          runfiles := o.runfilesTree
          filesets := .ofList mounts }
        registry := o.registry
        types := o.typeTable }) ∨
      ∃ failure, failure.isConfiguration = true ∧ ofDocument d fe = .error failure := by
  unfold ofDocument
  rcases Outline.ofDocument_cases d fe with ⟨es, o, hread, ho⟩ | ⟨failure, hc, hf⟩
  · rw [ho]
    cases hm : o.mounts o.filesets with
    | ok mounts =>
      refine .inl ⟨es, o, mounts, hread, hm, ?_⟩
      simp [ofOutline, hm, bind, Except.bind, pure, Except.pure]
    | error failure =>
      obtain ⟨path, rfl⟩ := Outline.undeclared_of_mounts hm
      refine .inr ⟨.undeclaredFileset path, rfl, ?_⟩
      simp [ofOutline, hm, bind, Except.bind]
  · rw [hf]
    exact .inr ⟨failure, hc, rfl⟩

/-- A description that answers for all that it lists. -/
structure Closed (desc : Description) : Prop where
  /-- No expansion is missing, whatever the engine and the base directory. -/
  expansions : ∀ (e : Engine) (base : Option Spelling) p expansion,
    (e.map desc.action desc.registry.expander base desc.types.metadata).1 ≠
      .error (.missingExpansion p expansion)
  /-- No artifact is of a kind that is not known. -/
  kinds : ∀ (e : Engine) (base : Option Spelling) label,
    (e.map desc.action desc.registry.expander base desc.types.metadata).1 ≠
      .error (.unknownKind label)
  /-- No call comes upon anything among the filesets that is not one. -/
  filesets : ∀ (e : Engine) (base : Option Spelling) p,
    (e.map desc.action desc.registry.expander base desc.types.metadata).1 ≠
      .error (.notFileset p)
  /-- What a call does fail with is put down to what the action declares. -/
  blames : ∀ (e : Engine) (base : Option Spelling) failure,
    (e.map desc.action desc.registry.expander base desc.types.metadata).1 = .error failure →
      e.Blames failure
  /-- What is listed among the filesets is one, with the links that its expander has for it. -/
  links : ∀ mount ∈ desc.action.filesets.entries,
    mount.1.isFileset = true ∧ desc.registry.expander.links mount.1 = .ok mount.2

theorem closed_of_known {desc : Description}
    (hknown : desc.action.KnownTo desc.registry.expander) : desc.Closed := by
  have hblames : ∀ (e : Engine) (base : Option Spelling) failure,
      (e.map desc.action desc.registry.expander base desc.types.metadata).1 = .error failure →
        e.Blames failure := by
    have hasked : ∀ v failure, desc.types.metadata v ≠ .error failure := fun _ _ => nofun
    exact fun e base failure h => Engine.blames_of_map hasked hknown h
  constructor
  case expansions => exact fun e base p expansion h => nomatch hblames e base _ h
  case kinds => exact fun e base label h => nomatch hblames e base _ h
  case filesets => exact fun e base p h => nomatch hblames e base _ h
  case blames => exact hblames
  case links =>
    intro mount hm
    obtain ⟨hfileset, hlinks⟩ := hknown.filesets mount hm
    exact ⟨hfileset, ok_of_toOption hlinks⟩

theorem closed_of_document (hkinds : ∀ es o, fe.outline es = .ok o → o.Kinded) {d : Document}
    {desc : Description} (h : ofDocument d fe = .ok desc) : desc.Closed := by
  rcases ofDocument_cases d fe with ⟨es, o, mounts, hread, hm, hdesc⟩ | ⟨failure, -, hf⟩
  · have ho := hkinds es o hread
    obtain rfl := Except.ok.inj (hdesc.symm.trans h)
    refine closed_of_known ⟨?_, fun root hroot entry hentry a ha => ?_, fun mount hmount => ?_⟩
    · exact List.forall_mem_map.mpr fun path _ => Outline.knows_lookup ho path
    · exact Outline.knows_runfiles ho hroot hentry ha
    · obtain ⟨hfileset, hlinks⟩ := Outline.mounts_eq_ok hm mount (Table.mem_of_mem_ofList hmount)
      exact ⟨hfileset, congrArg Except.toOption hlinks⟩
  · cases hf.symm.trans h

/-- A file holds a document, or the description is not loaded. -/
theorem exists_document_of_load {e : Environment} {file : String} {desc : Description}
    (h : load e file fe = .ok desc) : ∃ d, ofDocument d fe = .ok desc := by
  unfold load at h
  dsimp only at h
  split at h
  · cases h
  · cases h
  · exact ⟨_, h⟩
  · cases h

/-- A document is loaded, or it is at fault. -/
theorem isConfiguration_of_document {d : Document} {failure : SetupFailure}
    (h : ofDocument d fe = .error failure) : failure.isConfiguration = true := by
  rcases ofDocument_cases d fe with ⟨_, _, _, _, _, hok⟩ | ⟨failure', hc, hf⟩
  · cases hok.symm.trans h
  · obtain rfl := Except.error.inj (hf.symm.trans h)
    exact hc

theorem spared_load (e : Environment) (file : String) (fe : FrontEnd) :
    Spared (load e file fe) := by
  have hdocument := e.spared_document (.ofString file) fe
  unfold load
  dsimp only
  split
  next => exact spared_error fun _ h => by cases h
  next f _ hf => exact spared_error fun failure he => hdocument failure (hf.trans (congrArg _ he))
  next es _ => exact fun failure h => nomatch isConfiguration_of_document h
  next => exact spared_error fun _ h => by cases h

end Description

namespace CommandLine

variable {fe : FrontEnd}

theorem spared_prepare (e : Environment) (o : Options) (fe : FrontEnd) :
    Spared (prepare e o fe).1 := by
  have hload := Settings.spared_load e o.config fe
  unfold prepare
  split
  next f log hf => exact spared_error fun failure he => hload failure (by rw [hf, he])
  next s log _ =>
    have hoverride := s.spared_override e o.overrides fe
    split
    next f hf => exact spared_error fun failure he => hoverride failure (hf.trans (congrArg _ he))
    next settings _ =>
      have hdescription := Description.spared_load e o.spawn fe
      split
      next f hf =>
        exact spared_error fun failure he => hdescription failure (hf.trans (congrArg _ he))
      next => exact spared_ok _

theorem setupFailed_ne_internal {f : SetupFailure} (h : ∀ failure, f ≠ .expansion failure)
    (log : List Event) : (setupFailed f log).ending ≠ .exit Ending.internal := by
  rw [setupFailed_ending h]
  split <;> nofun

theorem mappingFailed_ne_internal {e : Engine} {f : Failure} (h : e.Blames f) (log : List Event) :
    (mappingFailed f log).ending ≠ .exit Ending.internal := by
  cases h <;> nofun

/-- Whatever the files say, a run does not end as if the build had gone wrong. -/
theorem run_ne_internal (hkinds : ∀ es o, fe.outline es = .ok o → o.Kinded) (e : Environment)
    (o : Options) : (run e o fe).ending ≠ .exit Ending.internal := by
  have hspared := spared_prepare e o fe
  unfold run conclude
  split
  next f log hf =>
    exact setupFailed_ne_internal (fun failure he => hspared failure (by rw [hf, he])) log
  next => nofun
  next job log base hprepared _ =>
    obtain ⟨-, -, -, -, hload, -⟩ := prepare_eq_ok hprepared
    obtain ⟨d, hd⟩ := Description.exists_document_of_load hload
    have hclosed := Description.closed_of_document hkinds hd
    split
    next f more hmap =>
      have hblames := hclosed.blames _ _ f (congrArg Prod.fst hmap)
      exact mappingFailed_ne_internal hblames _
    next => nofun

end CommandLine

namespace Description

/-- Whatever files are read with, as long as none but known kinds are read: a document is at
fault, or its description answers for all that it lists. So no run of the command ends as if the
build had gone wrong. -/
theorem loads_closed (fe : FrontEnd) (hkinds : ∀ es o, fe.outline es = .ok o → o.Kinded) :
    (∀ d failure, ofDocument d fe = .error failure → failure.isConfiguration = true) ∧
    (∀ d desc, ofDocument d fe = .ok desc → desc.Closed) ∧
    ∀ e o, (CommandLine.run e o fe).ending ≠ .exit CommandLine.Ending.internal :=
  ⟨fun _ _ h => isConfiguration_of_document h, fun _ _ h => closed_of_document hkinds h,
    CommandLine.run_ne_internal hkinds⟩

/-- One path declared twice, as a tree and in another spelling as a fileset. Both are listed in
every place where they can be, beside a path that is not declared. -/
def twofold : Document :=
  .mapping [
    (.text "artifacts", .mapping [
      (.text "a", .mapping [(.text "kind", .text " Tree"), (.text "members", .list [.text "m"])]),
      (.text "./a", .mapping [(.text "kind", .text "fileset"),
        (.text "links", .list [.mapping [(.text "name", .text "n")]])])]),
    (.text "inputs", .list [.text "a", .text "b"]),
    (.text "runfiles", .mapping [(.text "r", .mapping [
      (.text "t", .text "a"), (.text "f", .text "./a"), (.text "e", .null)])]),
    (.text "filesets", .list [.text "./a"])]

theorem closed_of_twofold :
    (∀ es o, FrontEnd.own.outline es = .ok o → o.Kinded) ∧
    ∃ desc, ofDocument twofold = .ok desc ∧ desc.Closed ∧
      desc.action.filesets.keys = [⟨.ofString "a", .fileset⟩] := by
  refine ⟨Outline.readFields_ensures, ?_⟩
  have hc : (ofDocument twofold).toOption.map (·.action.filesets.keys) =
      some [⟨.ofString "a", .fileset⟩] := by decide +kernel
  cases h : ofDocument twofold with
  | error failure => simp [h, Except.toOption] at hc
  | ok desc =>
    simp only [h, Except.toOption, Option.map_some, Option.some.injEq] at hc
    exact ⟨desc, rfl, (loads_closed .own Outline.readFields_ensures).2.1 twofold desc h, hc⟩

end Description

end InputStaging
