import InputStaging.Proofs.Fileset.Reference
import InputStaging.Proofs.Requests

/-!
# Mounted filesets

An action mounts filesets at two kinds of places: below its runfiles, with the links that the
expander knows, and at their own paths. A call reads them one after another. It ends at the
first one that cannot be read, so that a call that returns has read them all.
-/

namespace InputStaging

namespace Script

variable {α β γ : Type} {failure : Failure}

/-- Whether a script comes to its end, or what it fails with. -/
def fate (s : Script α) (base : Option Spelling) (p : Progress) : Except Failure Unit :=
  (s.play base p).1.map fun _ => ()

/-- The script does what another one does, and then it fails. -/
def FailsAfter (s : Script α) (prior : Script β) (failure : Failure) : Prop :=
  ∀ base p, s.fate base p = (prior.fate base p).bind fun _ => .error failure

theorem fate_bind (s : Script α) (f : α → Script β) (base : Option Spelling) (p : Progress) :
    (s >>= f).fate base p =
      match s.play base p with
      | (.ok a, p) => (f a).fate base p
      | (.error e, _) => .error e := by
  unfold fate
  rw [play_bind, staging_bind]
  rcases s.play base p with ⟨_ | a, p'⟩ <;> rfl

theorem FailsAfter.after {c : Script γ} {f : γ → Script α} {g : γ → Script β}
    (h : ∀ a, c.outcome = .ok a → (f a).FailsAfter (g a) failure) :
    (c >>= f).FailsAfter (c >>= g) failure := by
  intro base p
  rw [fate_bind, fate_bind]
  rcases hc : c.play base p with ⟨_ | a, p'⟩
  · rfl
  · exact h a (play_eq_ok_iff.mp hc).2 base p'

/-- What would come next is not reached. -/
theorem FailsAfter.bind {s : Script α} {prior : Script β} (h : s.FailsAfter prior failure)
    (f : α → Script γ) : (s >>= f).FailsAfter prior failure := by
  intro base p
  rw [← h base p, fate_bind]
  have hs := h base p
  unfold fate at hs ⊢
  rcases hplay : s.play base p with ⟨e | a, p'⟩
  · rfl
  · rw [hplay] at hs
    cases hprior : (prior.play base p).1 with
    | error e => rw [hprior] at hs; cases hs
    | ok b => rw [hprior] at hs; cases hs

/-- What comes after the other script is of no account, if it does not fail. -/
theorem FailsAfter.of_harmless {s : Script α} {prior : Script β} (h : s.FailsAfter prior failure)
    {g : β → Script γ} (hg : ∀ b base p, (g b).fate base p = .ok ()) :
    s.FailsAfter (prior >>= g) failure := by
  intro base p
  rw [h base p, fate_bind]
  unfold fate
  rcases prior.play base p with ⟨_ | b, p'⟩
  · rfl
  · dsimp only
    rw [show ((g b).play base p').1.map (fun _ => ()) = .ok () from hg b base p']
    rfl

theorem failsAfter_sum {ι : Type} {f : ι → Script Nat} {i : ι} {tail : List ι}
    (h : (f i).FailsAfter (sum f tail) failure) (pre post : List ι) :
    (sum f (pre ++ i :: post)).FailsAfter (sum f (pre ++ tail)) failure := by
  induction pre with
  | nil => exact h.bind _
  | cons j pre ih =>
    refine FailsAfter.after (c := f j) fun n _ => ?_
    exact (ih.bind _).of_harmless fun _ _ _ => rfl

theorem sum_outcome {ι : Type} {f : ι → Script Nat} {is : List ι} {n : Nat}
    (h : (sum f is).outcome = .ok n) : ∀ i ∈ is, ∃ m, (f i).outcome = .ok m := by
  induction is generalizing n with
  | nil => exact fun i hi => nomatch hi
  | cons j rest ih =>
    obtain ⟨m, hm, hrest⟩ := bind_outcome.mp h
    obtain ⟨k, hk, -⟩ := bind_outcome.mp hrest
    intro i hi
    rcases List.mem_cons.mp hi with rfl | hi
    · exact ⟨m, hm⟩
    · exact ih hk i hi

end Script

theorem Resolver.failsAfter_script {r : Resolver} {links : List Link} {mount : Path}
    {failure : Failure} (h : (r.manifest links (.ofPath mount)).1 = .error failure) :
    (r.script links mount).FailsAfter (pure 0 : Script Nat) failure := by
  intro base p
  unfold script
  rw [h]
  rfl

/-- The action mounts a fileset with these links at this path. What it declares before that
is `prior`. -/
inductive Action.Mounts (x : Expander) (action prior : Action) : Path → List Link → Prop where
  | below {roots roots' : List (Path × Table Path (Option Artifact))}
      {root relative : Path} {entries earlier : Table Path (Option Artifact)} {a : Artifact}
      {later : List (Path × Option Artifact)} {links : List Link}
      (runfiles : action.runfiles.entries = roots ++ (root, entries) :: roots')
      (entry : entries.entries = earlier.entries ++ (relative, some a) :: later)
      (accepted : (Spelling.ofPath relative).relative = .ok relative)
      (kind : a.kind = .fileset) (known : x.links? a = some links)
      (inputs : prior.inputs = action.inputs)
      (before : prior.runfiles.entries = roots ++ [(root, earlier)])
      (none_yet : prior.filesets.entries = []) :
      Mounts x action prior (root / relative) links
  | alone {later : List (Artifact × List Link)} {a : Artifact} {links : List Link}
      (filesets : action.filesets.entries = prior.filesets.entries ++ (a, links) :: later)
      (kind : a.isFileset = true) (inputs : prior.inputs = action.inputs)
      (runfiles : prior.runfiles = action.runfiles) :
      Mounts x action prior a.execPath links

theorem Table.exists_before {κ α : Type} {t : Table κ α} {pre post : List (κ × α)}
    (h : t.entries = pre ++ post) : ∃ t' : Table κ α, t'.entries = pre := by
  have hnodup := t.nodup
  rw [h, List.map_append] at hnodup
  exact ⟨⟨pre, (List.nodup_append.mp hnodup).1⟩, rfl⟩

namespace Action

variable {x : Expander} {action prior : Action} {mount : Path} {links : List Link}

theorem mounts_below {root : Path × Table Path (Option Artifact)} {relative : Path} {a : Artifact}
    (hroot : root ∈ action.runfiles.entries) (hentry : (relative, some a) ∈ root.2.entries)
    (haccepted : (Spelling.ofPath relative).relative = .ok relative) (hkind : a.kind = .fileset)
    (hknown : x.links? a = some links) :
    ∃ prior, action.Mounts x prior (root.1 / relative) links := by
  obtain ⟨roots, roots', hroots⟩ := List.append_of_mem hroot
  obtain ⟨pre, later, hpre⟩ := List.append_of_mem hentry
  obtain ⟨earlier, rfl⟩ := Table.exists_before hpre
  -- The root keeps its name with fewer entries below it, so that no name comes twice.
  have hnodup : ((roots ++ [(root.1, earlier)]).map Prod.fst).Nodup := by
    have hall := action.runfiles.nodup
    rw [hroots, List.append_cons, List.map_append] at hall
    have hfront := (List.nodup_append.mp hall).1
    rwa [List.map_append] at hfront ⊢
  exact ⟨{ inputs := action.inputs, runfiles := ⟨roots ++ [(root.1, earlier)], hnodup⟩ },
    .below hroots hpre haccepted hkind hknown rfl rfl rfl⟩

theorem mounts_alone {a : Artifact} (hmem : (a, links) ∈ action.filesets.entries)
    (hkind : a.isFileset = true) : ∃ prior, action.Mounts x prior a.execPath links := by
  obtain ⟨pre, later, hpre⟩ := List.append_of_mem hmem
  obtain ⟨earlier, rfl⟩ := Table.exists_before hpre
  exact ⟨{ action with filesets := earlier }, .alone hpre hkind rfl rfl⟩

end Action

namespace Engine

variable {e : Engine} {action prior : Action} {x : Expander} {base : Option Spelling}
  {metadata : Metadata} {mount : Path} {links : List Link} {failure : Failure}

theorem belowScript_eq {root relative : Path} {a : Artifact}
    (haccepted : (Spelling.ofPath relative).relative = .ok relative) (hkind : a.kind = .fileset)
    (hknown : x.links? a = some links) :
    e.belowScript metadata x root (relative, some a) =
      e.resolver.script links (root / relative) := by
  unfold belowScript
  rw [show (Spelling.ofPath (relative, some a).1).relative = .ok relative from haccepted]
  show e.runfileScript metadata x (root / relative) (some a) = _
  unfold runfileScript filesetScript expansionScript
  simp only [hkind, ok_of_toOption hknown]
  rfl

theorem failsAfter_of_mounts (h : action.Mounts x prior mount links)
    (hf : (e.resolver.manifest links (.ofPath mount)).1 = .error failure) :
    (e.script action x metadata).FailsAfter (e.script prior x metadata) failure := by
  have hscript := Resolver.failsAfter_script hf
  cases h with
  | below runfiles entry accepted kind known inputs before none_yet =>
    rename_i roots roots' root relative entries earlier a later
    have hentry : (e.belowScript metadata x root (relative, some a)).FailsAfter
        (Script.sum (e.belowScript metadata x root) []) failure := by
      rw [belowScript_eq accepted kind known]
      exact hscript
    have hroot : (e.rootScript metadata x (root, entries)).FailsAfter
        (Script.sum (e.rootScript metadata x) [(root, earlier)]) failure := by
      have hbelow := Script.failsAfter_sum hentry earlier.entries later
      rw [← entry, List.append_nil] at hbelow
      refine Script.FailsAfter.of_harmless ?_ fun _ _ _ => rfl
      refine Script.FailsAfter.after fun path hpath => ?_
      obtain rfl : path = root := (Spelling.relative_eq_ok_iff.mp hpath).2.2.2
      exact hbelow
    have hroots := Script.failsAfter_sum hroot roots roots'
    rw [← runfiles, ← before] at hroots
    unfold script
    rw [inputs, none_yet]
    refine .after fun _ _ => .after fun _ _ => .after fun _ _ => ?_
    exact (hroots.bind _).of_harmless fun _ _ _ => rfl
  | alone filesets kind inputs runfiles =>
    rename_i later a
    have hmount : (e.mountScript (a, links)).FailsAfter (Script.sum e.mountScript []) failure := by
      unfold mountScript
      rw [if_pos kind]
      exact hscript
    have hmounts := Script.failsAfter_sum hmount prior.filesets.entries later
    rw [← filesets, List.append_nil] at hmounts
    unfold script
    rw [inputs, runfiles]
    refine .after fun _ _ => .after fun _ _ => .after fun _ _ => .after fun _ _ =>
      .after fun _ _ => ?_
    exact (hmounts.bind _).of_harmless fun _ _ _ => rfl

theorem eq_bind_of_fate {α : Type} {outcome before : Except Failure α}
    (h : (outcome.map fun _ => ()) = (before.map fun _ => ()).bind fun _ => .error failure) :
    outcome = before.bind fun _ => .error failure := by
  cases outcome with
  | ok a => cases before <;> cases h
  | error f =>
    cases before with
    | ok a => exact congrArg Except.error (Except.error.inj h)
    | error f' => exact congrArg Except.error (Except.error.inj h)

/-- A call fails with what its script fails with. -/
theorem map_fate {dir : Path} (hb : Path.baseDirectory base = .ok dir) :
    ((e.map action x base metadata).1.map fun _ => ()) =
      (e.script action x metadata).fate (some (.ofPath dir)) e.start := by
  rw [map_outcome hb]
  unfold Script.fate Script.play
  rcases Script.Step.runAll (some (.ofPath dir)) (e.script action x metadata).steps e.start
    with ⟨_ | _, p⟩
  · rfl
  · cases (e.script action x metadata).outcome <;> rfl

/-- A call that comes to a fileset it cannot read fails with the failure of that fileset. It
comes there just if it returns without the fileset and all that is declared after it. -/
theorem map_of_unreadable (h : action.Mounts x prior mount links)
    (hf : (e.resolver.manifest links (.ofPath mount)).1 = .error failure) :
    (e.map action x base metadata).1 =
      (e.map prior x base metadata).1.bind fun _ => .error failure := by
  cases hb : Path.baseDirectory base with
  | error f =>
    have hmap : ∀ action', (e.map action' x base metadata).1 = .error f := fun action' => by
      unfold map
      rw [run_eq, hb]
      rfl
    rw [hmap, hmap]
    rfl
  | ok dir =>
    refine eq_bind_of_fate ?_
    rw [map_fate hb, map_fate hb]
    exact failsAfter_of_mounts h hf _ _

theorem manifest_of_map {result : List (Path × Input)}
    (hmap : (e.map action x base metadata).1 = .ok result)
    (h : action.Mounts x prior mount links) :
    ∃ m, (e.resolver.manifest links (.ofPath mount)).1 = .ok m := by
  cases hm : (e.resolver.manifest links (.ofPath mount)).1 with
  | ok m => exact ⟨m, rfl⟩
  | error failure =>
    rw [map_of_unreadable h hm] at hmap
    cases hprior : (e.map prior x base metadata).1 with
    | error f => rw [hprior] at hmap; cases hmap
    | ok earlier => rw [hprior] at hmap; cases hmap

/-! ## What is asked for by location -/

/-- A call that comes to the end of its script comes by every entry of its runfiles. -/
theorem runfileScript_of_script {counts : Nat × Nat × Nat}
    (h : (e.script action x metadata).outcome = .ok counts)
    {root : Path × Table Path (Option Artifact)} (hroot : root ∈ action.runfiles.entries)
    {relative : Path} {entry : Option Artifact} (hentry : (relative, entry) ∈ root.2.entries) :
    (Spelling.ofPath relative).relative = .ok relative ∧
      ∃ n, (e.runfileScript metadata x (root.1 / relative) entry).outcome = .ok n := by
  obtain ⟨-, hroots, -⟩ := script_outcome.mp h
  obtain ⟨n, hn⟩ := Script.sum_outcome hroots root hroot
  obtain ⟨path, hpath, hbelow⟩ := Script.bind_outcome.mp hn
  obtain rfl : path = root.1 := (Spelling.relative_eq_ok_iff.mp hpath).2.2.2
  obtain ⟨k, hk⟩ := Script.sum_outcome hbelow _ hentry
  obtain ⟨path', haccepted, hrunfile⟩ := Script.bind_outcome.mp hk
  obtain rfl : path' = relative := (Spelling.relative_eq_ok_iff.mp haccepted).2.2.2
  exact ⟨haccepted, k, hrunfile⟩

theorem mounts_of_runfile {counts : Nat × Nat × Nat}
    (h : (e.script action x metadata).outcome = .ok counts)
    {root : Path × Table Path (Option Artifact)} (hroot : root ∈ action.runfiles.entries)
    {relative : Path} {a : Artifact} (hentry : (relative, some a) ∈ root.2.entries)
    (hkind : a.kind = .fileset) :
    ∃ prior links, x.links? a = some links ∧ action.Mounts x prior (root.1 / relative) links := by
  obtain ⟨haccepted, n, hrunfile⟩ := runfileScript_of_script h hroot hentry
  unfold runfileScript at hrunfile
  simp only [hkind] at hrunfile
  obtain ⟨links, hlinks, -⟩ := Script.bind_outcome.mp hrunfile
  have hknown := filesetScript_outcome hlinks
  obtain ⟨prior, hprior⟩ := Action.mounts_below hroot hentry haccepted hkind hknown
  exact ⟨prior, links, hknown, hprior⟩

theorem mounts_of_fileset {counts : Nat × Nat × Nat}
    (h : (e.script action x metadata).outcome = .ok counts) {a : Artifact}
    (hmem : (a, links) ∈ action.filesets.entries) :
    ∃ prior, action.Mounts x prior a.execPath links := by
  obtain ⟨-, -, hmounts⟩ := script_outcome.mp h
  obtain ⟨n, hn⟩ := Script.sum_outcome hmounts _ hmem
  cases hkind : a.isFileset with
  | true => exact Action.mounts_alone hmem hkind
  | false =>
    unfold mountScript at hn
    rw [show (a, links).1.isFileset = false from hkind] at hn
    cases hn

/-- A source that is not an artifact is that of a mounted fileset. -/
theorem mounts_of_request {counts : Nat × Nat × Nat} {location p : Path}
    (h : (e.script action x metadata).outcome = .ok counts)
    (hr : (location, .location p) ∈ e.requests action x) :
    ∃ prior mount links, action.Mounts x prior mount links ∧
      (location, .location p) ∈ e.resolver.requests links mount := by
  unfold requests parts at hr
  simp only [List.flatMap_cons, List.flatMap_nil, List.append_nil, List.mem_append,
    List.mem_flatMap] at hr
  rcases hr with ⟨a, -, hr⟩ | ⟨root, hroot, ⟨relative, entry⟩, hentry, hr⟩ | ⟨⟨a, links⟩, hmem, hr⟩
  · unfold inputRequests at hr
    cases hkind : a.kind <;> simp [hkind] at hr
  · unfold runfileRequests at hr
    cases entry with
    | none => simp at hr
    | some a =>
      dsimp only at hr
      cases hkind : a.kind with
      | file => simp [hkind] at hr
      | tree => simp [hkind] at hr
      | other label => simp [hkind] at hr
      | fileset =>
        obtain ⟨prior, links, hknown, hprior⟩ := mounts_of_runfile h hroot hentry hkind
        simp only [hkind, hknown] at hr
        exact ⟨prior, _, links, hprior, hr⟩
  · obtain ⟨prior, hprior⟩ := mounts_of_fileset h hmem
    exact ⟨prior, _, links, hprior, hr⟩

end Engine

end InputStaging
