import InputStaging.Proofs.Provenance

/-!
# Placement

Beneath whatever base directory, a location is placed at its own normal form. So it lies strictly
beneath the directory, and the directory has no part in whether it is accepted. A location that
cancels to nothing is the exception on both counts: it is placed at the directory itself, and it is
refused where the directory is the root of the sandbox.
-/

namespace InputStaging

namespace Spelling

/-- The spelling passes all that is checked of a location before the base directory is looked at. -/
def Sound (l : Spelling) : Prop := l.relative = .ok l.path ∧ l.path.climbsOut = false

variable {l : Spelling}

theorem Sound.isAbsolute (h : l.Sound) : l.path.isAbsolute = false :=
  (relative_eq_ok_iff.mp h.1).2.1

theorem Sound.clean (h : l.Sound) : l.path.normalize.Clean := Path.clean_normalize h.isAbsolute h.2

end Spelling

namespace Path

variable {base : Option Spelling} {dir d p : Path} {l : Spelling}

theorem div_eq_self_iff (hp : p.isAbsolute = false) : dir / p = dir ↔ p = here := by
  constructor
  · intro h
    have hsegs := congrArg segments h
    rw [segments_div hp] at hsegs
    exact Path.ext (root_of_relative hp) (List.append_right_eq_self.mp hsegs)
  · rintro rfl
    exact Path.ext rfl (List.append_nil _)

theorem normalize_div_of_sound (hdir : dir.Clean) (hl : l.Sound) :
    (dir / l.path).normalize = dir / l.path.normalize :=
  normalize_div_eq hdir.noUp hl.isAbsolute hl.2

/-- Of a base directory nothing but where it is has a part in where a location is placed. -/
theorem destination_eq_ok_iff_sound (hdir : baseDirectory base = .ok dir) :
    destination base l = .ok d ↔
      l.Sound ∧ ¬ (dir = here ∧ l.path.normalize = here) ∧ d = dir / l.path.normalize := by
  have hclean := baseDirectory_clean hdir
  have hroot : l.Sound → (dir / l.path.normalize = here ↔ dir = here ∧ l.path.normalize = here) :=
    fun hl => div_eq_here_iff hclean.relative hl.clean.relative
  rw [destination_eq_ok_iff]
  constructor
  · rintro ⟨hrel, hc, dir', hdir', hne, rfl⟩
    obtain rfl := Except.ok.inj (hdir.symm.trans hdir')
    have hl : l.Sound := ⟨hrel, hc⟩
    rw [normalize_div_of_sound hclean hl] at hne ⊢
    exact ⟨hl, mt (hroot hl).mpr hne, rfl⟩
  · rintro ⟨hl, hne, rfl⟩
    rw [← normalize_div_of_sound hclean hl]
    refine ⟨hl.1, hl.2, dir, hdir, ?_, rfl⟩
    rw [normalize_div_of_sound hclean hl]
    exact mt (hroot hl).mp hne

theorem destination_isOk_iff (hdir : baseDirectory base = .ok dir) :
    (∃ d, destination base l = .ok d) ↔
      l.Sound ∧ ¬ (dir = here ∧ l.path.normalize = here) := by
  simp only [destination_eq_ok_iff_sound hdir]
  exact ⟨fun ⟨_, hl, hne, _⟩ => ⟨hl, hne⟩, fun ⟨hl, hne⟩ => ⟨_, hl, hne, rfl⟩⟩

theorem destination_of_cancelled (hdir : baseDirectory base = .ok dir) (hl : l.Sound)
    (hnil : l.path.normalize = here) : destination base l =
      if dir = here then .error (.location l.text .isSandboxRoot) else .ok dir := by
  by_cases hroot : dir = here
  · have hjoin : (dir / l.path).normalize = here := by
      rw [hroot, here_div hl.isAbsolute, hnil]
    rw [if_pos hroot, destination, hl.1]
    simp [bind, Except.bind, throw, throwThe, MonadExceptOf.throw, hl.2, hdir, hjoin]
  · rw [if_neg hroot, destination_eq_ok_iff_sound hdir]
    refine ⟨hl, fun hboth => hroot hboth.1, ?_⟩
    exact ((div_eq_self_iff hl.clean.relative).mpr hnil).symm

/-! ## The part of the base directory -/

/-- What the base directory decides about locations, and what it does not. -/
structure Places (base : Option Spelling) (dir : Path) : Prop where
  /-- A destination is the directory with the location behind it. -/
  extended : ∀ l d, destination base l = .ok d →
    d.isAbsolute = false ∧ d.segments = dir.segments ++ l.path.normalize.segments
  /-- It lies strictly beneath the directory, unless the location cancels to nothing. -/
  strictly : ∀ l d, destination base l = .ok d → l.path.normalize ≠ here →
    dir.segments <+: d.segments ∧ dir.segments.length < d.segments.length
  /-- If it does, the destination is the directory itself. -/
  itself : ∀ l d, destination base l = .ok d → (d = dir ↔ l.path.normalize = here)
  /-- Any other location is accepted beneath all directories, or beneath none. -/
  anywhere : ∀ base' dir', baseDirectory base' = .ok dir' → ∀ l, l.path.normalize ≠ here →
    ((∃ d, destination base l = .ok d) ↔ ∃ d, destination base' l = .ok d)
  /-- What cancels to nothing is refused at the root of the sandbox, and nowhere else for that. -/
  cancelled : ∀ l, l.path.normalize = here → l.Sound →
    destination base l = if dir = here then .error (.location l.text .isSandboxRoot) else .ok dir
  unsound : ∀ l, ¬ l.Sound → ∀ d, destination base l ≠ .ok d
  /-- All that a call stages is behind the directory, and at the directory itself is only what was
  asked for at a location that cancels to nothing. -/
  staged : ∀ (e : Engine) action x metadata result, (e.map action x base metadata).1 = .ok result →
    ∀ entry ∈ result, ∃ location, (location, entry.2) ∈ e.requests action x ∧
      entry.1.segments = dir.segments ++ location.normalize.segments ∧
      (entry.1 = dir ↔ location.normalize = here)

/-- Nothing is placed beneath a base directory that is refused. One that is accepted decides where
locations are placed, and hardly which of them are accepted. -/
theorem placement (base : Option Spelling) :
    (∀ l d, destination base l = .ok d → ∃ dir, baseDirectory base = .ok dir) ∧
      ∀ dir, baseDirectory base = .ok dir → Places base dir := by
  constructor
  · intro l d h
    obtain ⟨-, -, dir, hdir, -⟩ := destination_eq_ok_iff.mp h
    exact ⟨dir, hdir⟩
  intro dir hdir
  have hclean := baseDirectory_clean hdir
  have hextended : ∀ l d, destination base l = .ok d →
      d.isAbsolute = false ∧ d.segments = dir.segments ++ l.path.normalize.segments := by
    intro l d h
    obtain ⟨hl, -, rfl⟩ := (destination_eq_ok_iff_sound hdir).mp h
    have hrel := hl.clean.relative
    exact ⟨isAbsolute_div_of_relative hclean.relative hrel, segments_div hrel⟩
  constructor
  case extended => exact hextended
  case strictly =>
    intro l d h hne
    obtain ⟨hl, -, -⟩ := (destination_eq_ok_iff_sound hdir).mp h
    have hlong : l.path.normalize.segments ≠ [] := fun hnil =>
      hne (Path.ext (root_of_relative hl.clean.relative) hnil)
    have hpos := List.length_pos_iff.mpr hlong
    rw [(hextended l d h).2, List.length_append]
    exact ⟨List.prefix_append _ _, by omega⟩
  case itself =>
    intro l d h
    obtain ⟨hl, -, rfl⟩ := (destination_eq_ok_iff_sound hdir).mp h
    exact div_eq_self_iff hl.clean.relative
  case anywhere =>
    intro base' dir' hdir' l hne
    rw [destination_isOk_iff hdir, destination_isOk_iff hdir']
    simp only [hne, and_false]
  case cancelled => exact fun l hnil hl => destination_of_cancelled hdir hl hnil
  case unsound =>
    intro l hl d h
    exact hl ((destination_eq_ok_iff_sound hdir).mp h).1
  case staged =>
    rintro e action x metadata result h ⟨d, v⟩ hmem
    obtain ⟨dir', location, hdir', hrequest, hadmits, rfl⟩ := Engine.place_of_result h hmem
    obtain rfl := Except.ok.inj (hdir.symm.trans hdir')
    obtain ⟨hrel, hc, -⟩ := destination_eq_ok_iff.mp hadmits
    have hl : (Spelling.ofPath location).Sound := ⟨hrel, hc⟩
    have hplace : (dir / location).normalize = dir / location.normalize :=
      normalize_div_of_sound hclean hl
    rw [hplace]
    exact ⟨location, hrequest, segments_div hl.clean.relative, div_eq_self_iff hl.clean.relative⟩

theorem placement_of_out :
    baseDirectory (some (.ofString "out/x/..")) = .ok (.ofString "out") ∧
    destination (some (.ofString "out/x/..")) (.ofString "a/../b") = .ok (.ofString "out/b") ∧
    ["out"] <+: ["out", "b"] ∧
    destination (some (.ofString "out/x/..")) (.ofString "a/..") = .ok (.ofString "out") ∧
    destination none (.ofString "a/..") = .error (.location "a/.." .isSandboxRoot) ∧
    ∃ d, destination none (.ofString "a/../b") = .ok d := by
  have hout : baseDirectory (some (.ofString "out/x/..")) = .ok (.ofString "out") := by rfl
  have hroot : baseDirectory none = .ok here := rfl
  have hb : destination (some (.ofString "out/x/..")) (.ofString "a/../b") =
      .ok (.ofString "out/b") := by rfl
  have hplaces := (placement (some (.ofString "out/x/.."))).2 _ hout
  have hat := hplaces.cancelled (.ofString "a/..") (by rfl) ⟨by rfl, by rfl⟩
  have hnowhere := ((placement none).2 _ hroot).cancelled (.ofString "a/..") (by rfl)
    ⟨by rfl, by rfl⟩
  refine ⟨hout, hb, (hplaces.strictly _ _ hb (by decide)).1, ?_, ?_, ?_⟩
  · rw [hat, if_neg (by decide)]
  · rw [hnowhere, if_pos rfl]
    rfl
  · exact (hplaces.anywhere none here hroot (.ofString "a/../b") (by decide)).mp ⟨_, hb⟩

/-- Not every destination lies strictly beneath its base directory, not every location fares the
same beneath all directories, and a call can stage an input at the base directory itself. -/
theorem staged_at_itself :
    (¬ ∀ (base l : String) (dir d : Path), baseDirectory (some (.ofString base)) = .ok dir →
      destination (some (.ofString base)) (.ofString l) = .ok d →
      dir.segments <+: d.segments ∧ dir.segments.length < d.segments.length) ∧
    (¬ ∀ (dir dir' : Path) (l : String), baseDirectory (some (.ofPath dir)) = .ok dir →
      baseDirectory (some (.ofPath dir')) = .ok dir' →
      ((∃ d, destination (some (.ofPath dir)) (.ofString l) = .ok d) ↔
        ∃ d, destination (some (.ofPath dir')) (.ofString l) = .ok d)) ∧
    ∃ result, (Engine.lenient.map { inputs := [{ execPath := .ofString "a/.." }] } Engine.expander
        (some (.ofString "out")) fun _ => .ok .file).1 = .ok result ∧
      .ofString "out" ∈ result.map Prod.fst := by
  refine ⟨fun h => ?_, fun h => ?_, ?_⟩
  · exact absurd (h "base" "." (.ofString "base") (.ofString "base") (by rfl) (by rfl)).2
      (by decide)
  · have hbase := h (.ofString "base") here "." (by rfl) (by rfl)
    obtain ⟨d, hd⟩ := hbase.mp ⟨.ofString "base", by rfl⟩
    cases hd
  · cases h : (Engine.lenient.map { inputs := [{ execPath := .ofString "a/.." }] } Engine.expander
        (some (.ofString "out")) fun _ => .ok .file).1 with
    | error failure => cases h
    | ok result =>
      refine ⟨result, rfl, ?_⟩
      rw [Engine.result_of_map h, Table.sorted_of_pairwise (by decide)]
      decide

end Path

end InputStaging
