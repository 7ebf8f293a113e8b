import InputStaging.Proofs.Containment
import InputStaging.Proofs.Path.Text

/-!
# Judging again

A location is judged as it is spelt, and kept in its normal form. Judged again in that form it
passes every check but one: taking `..` away may bring to the front a segment that looks like a
drive. Beneath a base directory to which that happens, nothing can be staged.
-/

namespace InputStaging

/-- The path is what the text reads as. -/
def Spelling.Exact (l : Spelling) : Prop := l.path = .ofString l.text

theorem Spelling.exact_ofString (s : String) : (Spelling.ofString s).Exact := rfl

namespace Path

/-- The first segment looks like a drive. -/
def hasDrive (p : Path) : Bool := p.segments.head?.any (·.toList.getLast? = some ':')

variable {base : Option Spelling} {l : Spelling} {p dir d : Path}

/-- No segment holds a NUL. -/
def NulFree (p : Path) : Prop := ∀ s ∈ p.segments, '\x00' ∉ s.toList

theorem nulFree_iff : p.NulFree ↔ '\x00' ∉ p.text.toList := by
  rw [mem_text_iff (by decide) (by decide)]
  simp [NulFree]

theorem nulFree_of_exact (hl : l.Exact) (h : '\x00' ∉ l.text.toList) : l.path.NulFree := by
  intro s hs hc
  rw [hl] at hs
  exact h (mem_of_mem_ofString hs hc)

theorem NulFree.normalize (h : p.NulFree) : p.normalize.NulFree :=
  fun s hs => h s (mem_of_mem_normalize hs)

/-! ## Normal forms -/

theorem climbs_of_noUp {ss : List String} (h : ".." ∉ ss) (depth : Nat) :
    climbs depth ss = false := by
  induction ss generalizing depth with
  | nil => rfl
  | cons s rest ih =>
    rw [List.mem_cons, not_or] at h
    simp only [climbs, if_neg (Ne.symm h.1)]
    exact ih h.2 _

theorem Clean.climbsOut (h : p.Clean) : p.climbsOut = false := by
  rw [climbsOut_of_relative h.relative]
  exact climbs_of_noUp h.noUp 0

/-- Of a clean path without NUL only the drive is left to be refused. -/
theorem relative_of_clean (hp : p.Clean) (hn : p.NulFree) :
    (Spelling.ofPath p).relative =
      if p.hasDrive then .error (.location p.text .drivePrefix) else .ok p := by
  have hnul : ¬ '\x00' ∈ (Spelling.ofPath p).text.toList := nulFree_iff.mp hn
  have habs : ¬ (Spelling.ofPath p).path.isAbsolute = true := by simp [Spelling.ofPath, hp.relative]
  unfold Spelling.relative
  rw [if_neg hnul, if_neg habs]
  rfl

theorem baseDirectory_of_clean (hp : p.Clean) (hn : p.NulFree) :
    baseDirectory (some (.ofPath p)) =
      if p.hasDrive then .error (.location p.text .drivePrefix) else .ok p := by
  unfold baseDirectory
  dsimp only
  rw [relative_of_clean hp hn]
  split
  · rfl
  · simp [bind, Except.bind, pure, Except.pure, hp.climbsOut, normalize_of_noUp hp.noUp]

/-- Of a clean location without NUL only the drive, the base directory and the root are left to be
refused. -/
theorem destination_eq_of_clean (hp : p.Clean) (hn : p.NulFree) (base : Option Spelling) :
    destination base (.ofPath p) =
      if p.hasDrive then .error (.location p.text .drivePrefix)
      else (baseDirectory base).bind fun dir =>
        if dir = here ∧ p = here then .error (.location p.text .isSandboxRoot)
        else .ok (dir / p) := by
  unfold destination
  rw [relative_of_clean hp hn]
  split
  · rfl
  · cases hbase : baseDirectory base with
    | error e => simp [bind, Except.bind, hp.climbsOut]
    | ok dir =>
      have hdir := baseDirectory_clean hbase
      have hself : (dir / p).normalize = dir / p :=
        normalize_of_noUp (by simp [segments_div hp.relative, hdir.noUp, hp.noUp])
      have hroot := div_eq_here_iff hdir.relative hp.relative
      by_cases hat : dir = here ∧ p = here
      · obtain ⟨rfl, rfl⟩ := hat
        rfl
      · simp [bind, Except.bind, pure, Except.pure, hp.climbsOut, hself, hroot, hat]

theorem destination_none_of_clean (hp : p.Clean) (hn : p.NulFree) (hne : p ≠ here) :
    destination none (.ofPath p) =
      if p.hasDrive then .error (.location p.text .drivePrefix) else .ok p := by
  rw [destination_eq_of_clean hp hn]
  simp [baseDirectory, Except.bind, hne, here_div hp.relative]

/-! ## What was accepted -/

theorem baseDirectory_nulFree (hl : ∀ l ∈ base, l.Exact) (h : baseDirectory base = .ok dir) :
    dir.NulFree := by
  cases base with
  | none =>
    obtain rfl := Except.ok.inj h
    intro s hs
    cases hs
  | some l =>
    unfold baseDirectory at h
    cases hr : l.relative with
    | error e => simp [hr, bind, Except.bind] at h
    | ok p =>
      obtain ⟨hn, -, -, rfl⟩ := Spelling.relative_eq_ok_iff.mp hr
      simp only [hr, bind, Except.bind, pure, Except.pure] at h
      split at h
      · cases h
      · obtain rfl := Except.ok.inj h
        exact (nulFree_of_exact (hl l rfl) hn).normalize

/-- A drive comes to the front of a base directory only where `..` takes away what stands
before it. -/
theorem exists_up_of_drive (h : baseDirectory base = .ok dir) (hd : dir.hasDrive = true) :
    ∃ l ∈ base, ".." ∈ l.path.segments := by
  cases base with
  | none =>
    obtain rfl := Except.ok.inj h
    cases hd
  | some l =>
    refine ⟨l, rfl, Decidable.byContradiction fun hup => ?_⟩
    unfold baseDirectory at h
    cases hr : l.relative with
    | error e => simp [hr, bind, Except.bind] at h
    | ok p =>
      obtain ⟨-, -, hdrive, rfl⟩ := Spelling.relative_eq_ok_iff.mp hr
      simp only [hr, bind, Except.bind, pure, Except.pure] at h
      split at h
      · cases h
      · obtain rfl := Except.ok.inj h
        rw [normalize_of_noUp hup] at hd
        exact Bool.noConfusion (hd.symm.trans hdrive)

/-- A destination is clean, without NUL, and not the root of the sandbox. -/
theorem destination_accepted (hbase : ∀ l ∈ base, l.Exact) (hl : l.Exact)
    (h : destination base l = .ok d) : d.Clean ∧ d.NulFree ∧ d ≠ here := by
  obtain ⟨hrel, hc, dir, hdir, hne, rfl⟩ := destination_eq_ok_iff.mp h
  obtain ⟨hn, ha, -, -⟩ := Spelling.relative_eq_ok_iff.mp hrel
  have hclean := baseDirectory_clean hdir
  obtain ⟨hroot, hsegs, hup⟩ := normalize_div hclean.noUp ha hc
  refine ⟨⟨?_, ?_⟩, ?_, hne⟩
  · rw [isAbsolute, hroot]
    exact hclean.relative
  · rw [hsegs, List.mem_append, not_or]
    exact ⟨hclean.noUp, hup⟩
  · intro s hs
    rw [hsegs, List.mem_append] at hs
    rcases hs with hs | hs
    · exact baseDirectory_nulFree hbase hdir s hs
    · exact (nulFree_of_exact hl hn).normalize s hs

theorem up_of_destination (hdir : baseDirectory base = .ok dir) (h : destination base l = .ok d)
    (hd : d.hasDrive = true) : dir.hasDrive = true ∨ ".." ∈ l.path.segments := by
  refine Decidable.or_iff_not_imp_right.mpr fun hup => ?_
  obtain ⟨hrel, hc, dir', hdir', -, rfl⟩ := destination_eq_ok_iff.mp h
  obtain rfl := Except.ok.inj (hdir.symm.trans hdir')
  obtain ⟨-, ha, hdrive, -⟩ := Spelling.relative_eq_ok_iff.mp hrel
  obtain ⟨-, hsegs, -⟩ := normalize_div (baseDirectory_clean hdir).noUp ha hc
  rw [normalize_of_noUp hup] at hsegs
  -- Without a base directory the location itself comes first, and that was judged.
  cases hfirst : dir.segments with
  | nil =>
    rw [hasDrive, hsegs, hfirst, List.nil_append, hdrive] at hd
    cases hd
  | cons s rest =>
    rw [hasDrive, hsegs, hfirst] at hd
    rw [hasDrive, hfirst]
    exact hd

/-- Of the base directory a destination takes no more than the normal form. -/
theorem destination_congr {base' : Option Spelling} (h : baseDirectory base' = baseDirectory base)
    (l : Spelling) : destination base' l = destination base l := by
  unfold destination
  rw [h]

end Path

namespace Script.Step

/-- What is written is asked for, so that nothing is where no location is admitted. -/
theorem Passed.sorted_of_admits_none {dir : Path} {p p' : Progress} {ss : List Script.Step}
    (h : Passed dir [] p ss p') (hnone : ∀ location, ¬ dir.Admits location) :
    p'.ledger.entries.sorted = [] := by
  refine List.eq_nil_iff_forall_not_mem.mpr fun ⟨d, v⟩ hmem => ?_
  have hentry := Table.mem_sorted_iff.mp hmem
  rw [h.reflects.entries, Option.map_eq_some_iff] at hentry
  obtain ⟨w, hw, -⟩ := hentry
  obtain ⟨location, hasked, -⟩ := mem_history (Write.mem_of_last? hw).1
  exact hnone location (h.admits (location, w.value) hasked)

end Script.Step

/-! ## Bases and destinations, judged again -/

/-- What becomes of an accepted base directory, and of what is staged beneath it, when their
normal forms are judged. -/
structure Rejudged (base : Option Spelling) (dir : Path) : Prop where
  /-- The directory is taken as it is, or refused for its drive. -/
  directory : Path.baseDirectory (some (.ofPath dir)) =
    if dir.hasDrive then .error (.location dir.text .drivePrefix) else .ok dir
  /-- So is every destination beneath it. -/
  destination : ∀ l d, l.Exact → Path.destination base l = .ok d →
    Path.destination none (.ofPath d) =
      if d.hasDrive then .error (.location d.text .drivePrefix) else .ok d
  /-- Without a drive, every location fares as it did when the directory was first judged. -/
  kept : dir.hasDrive = false → ∀ l, Path.destination (some (.ofPath dir)) l =
    Path.destination base l
  /-- With a drive, nothing can be staged. -/
  lost : dir.hasDrive = true → (∀ l d, Path.destination (some (.ofPath dir)) l ≠ .ok d) ∧
    ∀ (e : Engine) action x metadata result,
      (e.map action x base metadata).1 = .ok result → result = []
  /-- Only `..` brings a drive to the front. -/
  uncovered : (dir.hasDrive = true → ∃ l ∈ base, ".." ∈ l.path.segments) ∧
    ∀ l d, Path.destination base l = .ok d → d.hasDrive = true →
      dir.hasDrive = true ∨ ".." ∈ l.path.segments

theorem accepted_rejudged (base : Option Spelling) (hbase : ∀ l ∈ base, l.Exact) (dir : Path)
    (hdir : Path.baseDirectory base = .ok dir) : Rejudged base dir := by
  have hagain := Path.baseDirectory_of_clean (Path.baseDirectory_clean hdir)
    (Path.baseDirectory_nulFree hbase hdir)
  have hrefused : dir.hasDrive = true →
      ∀ l d, Path.destination (some (.ofPath dir)) l ≠ .ok d := by
    intro hdrive l d h
    obtain ⟨-, -, dir', hdir', -⟩ := Path.destination_eq_ok_iff.mp h
    rw [hagain, if_pos hdrive] at hdir'
    cases hdir'
  constructor
  case directory => exact hagain
  case destination =>
    intro l d hl h
    obtain ⟨hclean, hnul, hne⟩ := Path.destination_accepted hbase hl h
    exact Path.destination_none_of_clean hclean hnul hne
  case kept =>
    intro hdrive l
    refine Path.destination_congr ?_ l
    rw [hagain, hdir, hdrive]
    rfl
  case lost =>
    refine fun hdrive => ⟨hrefused hdrive, fun e action x metadata result h => ?_⟩
    obtain ⟨dir', p, hdir', hpass, -, rfl, -⟩ := Engine.passed_of_map h
    obtain rfl := Except.ok.inj (hdir.symm.trans hdir')
    exact hpass.sorted_of_admits_none fun location => hrefused hdrive _ _
  case uncovered =>
    exact ⟨Path.exists_up_of_drive hdir, fun l d => Path.up_of_destination hdir⟩

theorem rejudged_of_drive :
    Path.baseDirectory (some (.ofString "x/../c:")) = .ok (.ofString "c:") ∧
    Path.baseDirectory (some (.ofPath (.ofString "c:"))) =
      .error (.location "c:" .drivePrefix) ∧
    Path.destination (some (.ofString "out/x/..")) (.ofString "./a/../b") =
      .ok (.ofString "out/b") ∧
    Path.destination none (.ofPath (.ofString "out/b")) = .ok (.ofString "out/b") := by
  have hb : Path.baseDirectory (some (.ofString "x/../c:")) = .ok (.ofString "c:") := by rfl
  have hb' : Path.baseDirectory (some (.ofString "out/x/..")) = .ok (.ofString "out") := by rfl
  have hd : Path.destination (some (.ofString "out/x/..")) (.ofString "./a/../b") =
      .ok (.ofString "out/b") := by rfl
  have hdrive := accepted_rejudged (some (.ofString "x/../c:"))
    (by rintro l ⟨⟩; exact Spelling.exact_ofString _) _ hb
  have hplain := accepted_rejudged (some (.ofString "out/x/.."))
    (by rintro l ⟨⟩; exact Spelling.exact_ofString _) _ hb'
  exact ⟨hb, hdrive.directory, hd, hplain.destination _ _ (Spelling.exact_ofString _) hd⟩

/-- Not every base directory that is accepted is accepted again, and not every destination. A call
accepts such a directory, and refuses it as soon as anything is written beneath it. -/
theorem drive_uncovered :
    (¬ ∀ (base : Option Spelling) (dir : Path), (∀ l ∈ base, l.Exact) →
      Path.baseDirectory base = .ok dir → Path.baseDirectory (some (.ofPath dir)) = .ok dir) ∧
    (¬ ∀ (base : Option Spelling) (l : Spelling) (d : Path), (∀ l ∈ base, l.Exact) → l.Exact →
      Path.destination base l = .ok d → Path.destination none (.ofPath d) = .ok d) ∧
    (Engine.lenient.map {} Engine.expander (some (.ofString "x/../c:")) fun _ => .ok .file).1 =
      .ok [] ∧
    (Engine.lenient.map { inputs := [{ execPath := .ofString "a" }] } Engine.expander
      (some (.ofString "x/../c:")) fun _ => .ok .file).1 =
      .error (.location "c:" .drivePrefix) := by
  have hempty : (∅ : Table Path Input).sorted = [] := List.mergeSort_nil
  refine ⟨fun h => ?_, fun h => ?_, congrArg Except.ok hempty, by rfl⟩
  · have hagain := h (some (.ofString "x/../c:")) (.ofString "c:")
      (by rintro l ⟨⟩; exact Spelling.exact_ofString _) (by rfl)
    cases hagain
  · have hagain := h none (.ofString "x/../c:/y") (.ofString "c:/y") (by simp)
      (Spelling.exact_ofString _) (by rfl)
    cases hagain

end InputStaging
