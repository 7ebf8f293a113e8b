import InputStaging.Path.Destination

/-!
# Normal forms

A walk that never climbs out only touches what it has put on the trail itself, so it
comes out the same beneath every directory. From that one fact follow the shape of the
normal forms of such paths and what normalizing does to a join. Paths that do climb
out, and absolute ones, are not treated here.
-/

namespace InputStaging.Path

/-- Relative, and without any `..`. -/
structure Clean (p : Path) : Prop where
  relative : p.isAbsolute = false
  noUp : ".." ∉ p.segments

theorem root_of_relative {p : Path} (h : p.isAbsolute = false) : p.root = .relative := by
  simpa [isAbsolute] using h

theorem isAbsolute_div {p : Path} (hp : p.isAbsolute = true) (q : Path) :
    (p / q).isAbsolute = true := by
  cases hq : q.isAbsolute with
  | true => rwa [div_of_isAbsolute hq]
  | false => rwa [isAbsolute, root_div hq]

theorem isAbsolute_div_of_relative {p q : Path} (hp : p.isAbsolute = false)
    (hq : q.isAbsolute = false) : (p / q).isAbsolute = false := by
  rwa [isAbsolute, root_div hq]

theorem climbsOut_of_relative {p : Path} (h : p.isAbsolute = false) :
    p.climbsOut = climbs 0 p.segments := by
  simp [climbsOut, h]

theorem walk_up {root : Root} {top : String} {trail : List String} (h : top ≠ "..") :
    walk (root, top :: trail) ".." = (root, trail) := by
  simp [walk, up, h]

theorem walk_down {root : Root} {s : String} {trail : List String} (h : s ≠ "..") :
    walk (root, trail) s = (root, s :: trail) := by
  simp [walk, h]

/-- A walk that does not climb above where it started leaves what is below alone. -/
theorem foldl_walk_of_not_climbs {ss : List String} :
    ∀ {made : List String}, climbs made.length ss = false → ".." ∉ made →
      ∃ made', ".." ∉ made' ∧ ∀ root below,
        ss.foldl walk (root, made ++ below) = (root, made' ++ below) := by
  -- The induction carries the part of the trail that the walk itself has made.
  induction ss with
  | nil => exact fun {made} _ hm => ⟨made, hm, fun _ _ => rfl⟩
  | cons s rest ih =>
    intro made hc hm
    by_cases hs : s = ".."
    · subst hs
      cases made with
      | nil => simp [climbs] at hc
      | cons top made =>
        -- The level that is left is one that the walk has made, so it is no kept `..`.
        have htop : top ≠ ".." := fun e => hm (by simp [e])
        obtain ⟨made', hm', hw⟩ := @ih made (by simpa [climbs] using hc)
          (fun hin => hm (List.mem_cons_of_mem _ hin))
        refine ⟨made', hm', fun root below => ?_⟩
        rw [List.foldl_cons, List.cons_append, walk_up htop]
        exact hw root below
    · obtain ⟨made', hm', hw⟩ := @ih (s :: made) (by simpa [climbs, hs] using hc)
        (by simp [hm, Ne.symm hs])
      refine ⟨made', hm', fun root below => ?_⟩
      rw [List.foldl_cons, walk_down hs]
      exact hw root below

theorem foldl_walk_of_noUp {ss : List String} (h : ".." ∉ ss) (root : Root)
    (trail : List String) : ss.foldl walk (root, trail) = (root, ss.reverse ++ trail) := by
  induction ss generalizing trail with
  | nil => rfl
  | cons s rest ih =>
    rw [List.mem_cons, not_or] at h
    rw [List.foldl_cons, walk_down (Ne.symm h.1), ih h.2, List.reverse_cons, List.append_assoc]
    rfl

theorem normalize_of_noUp {p : Path} (h : ".." ∉ p.segments) : p.normalize = p := by
  have hw := foldl_walk_of_noUp h p.root []
  apply Path.ext
  · show (p.segments.foldl walk (p.root, [])).1 = p.root
    rw [hw]
  · show (p.segments.foldl walk (p.root, [])).2.reverse = p.segments
    rw [hw]
    simp

/-- Beneath a directory without `..`, what does not climb out is normalized on its own. -/
theorem normalize_div {dir p : Path} (hdir : ".." ∉ dir.segments) (hp : p.isAbsolute = false)
    (hc : p.climbsOut = false) :
    (dir / p).normalize.root = dir.root ∧
      (dir / p).normalize.segments = dir.segments ++ p.normalize.segments ∧
      ".." ∉ p.normalize.segments := by
  rw [climbsOut_of_relative hp] at hc
  obtain ⟨made, hm, hw⟩ := @foldl_walk_of_not_climbs p.segments [] hc (by simp)
  have hown : p.segments.foldl walk (p.root, []) = (p.root, made) := by
    simpa using hw p.root []
  have hjoin : (dir / p).segments.foldl walk ((dir / p).root, []) =
      (dir.root, made ++ dir.segments.reverse) := by
    rw [root_div hp, segments_div hp, List.foldl_append, foldl_walk_of_noUp hdir]
    simpa using hw dir.root dir.segments.reverse
  have hnorm : p.normalize.segments = made.reverse := by
    show (p.segments.foldl walk (p.root, [])).2.reverse = _
    rw [hown]
  refine ⟨?_, ?_, by rw [hnorm]; simpa using hm⟩
  · show ((dir / p).segments.foldl walk ((dir / p).root, [])).1 = _
    rw [hjoin]
  · show ((dir / p).segments.foldl walk ((dir / p).root, [])).2.reverse = _
    rw [hjoin, hnorm]
    simp

theorem walk_root (trail : List String) (s : String) :
    (walk (.relative, trail) s).1 = .relative := by
  unfold walk up
  split
  · cases trail with
    | nil => rfl
    | cons top below =>
      dsimp only
      split <;> rfl
  · rfl

theorem isAbsolute_normalize {p : Path} (hp : p.isAbsolute = false) :
    p.normalize.isAbsolute = false := by
  have hwalk : ∀ (ss : List String) (trail : List String),
      (ss.foldl walk (.relative, trail)).1 = .relative := by
    intro ss
    induction ss with
    | nil => exact fun _ => rfl
    | cons s rest ih =>
      intro trail
      rw [List.foldl_cons, show walk (.relative, trail) s = (.relative, _) from
        Prod.ext (walk_root trail s) rfl]
      exact ih _
  show decide ((p.segments.foldl walk (p.root, [])).1 ≠ .relative) = false
  rw [root_of_relative hp, hwalk]
  rfl

theorem here_div {p : Path} (hp : p.isAbsolute = false) : here / p = p := by
  apply Path.ext
  · rw [root_div hp, root_of_relative hp]
    rfl
  · rw [segments_div hp]
    rfl

theorem clean_normalize {p : Path} (hp : p.isAbsolute = false) (hc : p.climbsOut = false) :
    p.normalize.Clean := by
  have hd := @normalize_div here p (by simp) hp hc
  rw [here_div hp] at hd
  exact ⟨by simp [isAbsolute, hd.1], hd.2.2⟩

theorem div_eq_here_iff {dir p : Path} (hdir : dir.isAbsolute = false) (hp : p.isAbsolute = false) :
    dir / p = here ↔ dir = here ∧ p = here := by
  constructor
  · intro h
    have hsegs := segments_div (p := dir) hp
    rw [h] at hsegs
    obtain ⟨hd, hq⟩ := List.append_eq_nil_iff.mp hsegs.symm
    exact ⟨Path.ext (root_of_relative hdir) hd, Path.ext (root_of_relative hp) hq⟩
  · rintro ⟨rfl, rfl⟩
    rfl

/-- Beneath such a directory it is placed at its own normal form. -/
theorem normalize_div_eq {dir p : Path} (hdir : ".." ∉ dir.segments) (hp : p.isAbsolute = false)
    (hc : p.climbsOut = false) : (dir / p).normalize = dir / p.normalize := by
  have hrel := (clean_normalize hp hc).relative
  obtain ⟨hroot, hsegs, -⟩ := normalize_div hdir hp hc
  exact Path.ext (hroot.trans (root_div hrel).symm) (hsegs.trans (segments_div hrel).symm)

theorem mem_of_mem_normalize {p : Path} {s : String} (h : s ∈ p.normalize.segments) :
    s ∈ p.segments := by
  rcases mem_foldl_walk (List.mem_reverse.mp h) with h | h
  · cases h
  · exact h

/-! ## Characters of a path -/

/-- The text of a path holds the characters of its segments, and beside them only slashes
and the dot that stands for the empty path. -/
theorem mem_text_iff {p : Path} {c : Char} (hs : c ≠ '/') (hd : c ≠ '.') :
    c ∈ p.text.toList ↔ ∃ s ∈ p.segments, c ∈ s.toList := by
  unfold text
  by_cases he : p.root = .relative ∧ p.segments = []
  · simp [he, hd]
  · rw [if_neg he, String.toList_append, List.mem_append, String.toList_intercalate]
    have hroot : c ∉ p.root.text.toList := by
      cases p.root <;> simp [Root.text, hs]
    have hslash : "/".toList = ['/'] := rfl
    rw [hslash]
    simp only [hroot, false_or]
    induction p.segments with
    | nil => simp
    | cons s rest ih =>
      cases rest with
      | nil => simp
      | cons t rest => simp_all

/-! ## Destinations -/

theorem baseDirectory_clean {base : Option Spelling} {dir : Path}
    (h : baseDirectory base = .ok dir) : dir.Clean := by
  cases base with
  | none =>
    obtain rfl := Except.ok.inj h
    exact ⟨rfl, by simp⟩
  | some l =>
    unfold baseDirectory at h
    cases hr : l.relative with
    | error e => simp [hr, bind, Except.bind] at h
    | ok p =>
      obtain ⟨-, ha, -, rfl⟩ := Spelling.relative_eq_ok_iff.mp hr
      simp only [hr, bind, Except.bind, pure, Except.pure] at h
      split at h
      · cases h
      next hc =>
        obtain rfl := Except.ok.inj h
        exact clean_normalize ha (by simpa using hc)

/-- A location is staged exactly if it is relative, stays beneath the base directory and
does not name that directory's root. -/
theorem destination_eq_ok_iff {base : Option Spelling} {l : Spelling} {d : Path} :
    destination base l = .ok d ↔ l.relative = .ok l.path ∧ l.path.climbsOut = false ∧
      ∃ dir, baseDirectory base = .ok dir ∧ (dir / l.path).normalize ≠ here ∧
        d = (dir / l.path).normalize := by
  unfold destination
  cases hr : l.relative with
  | error e => simp [bind, Except.bind]
  | ok p =>
    obtain ⟨-, -, -, rfl⟩ := Spelling.relative_eq_ok_iff.mp hr
    cases hc : l.path.climbsOut with
    | true => simp [hc, bind, Except.bind, throw, throwThe, MonadExceptOf.throw]
    | false =>
      cases hb : baseDirectory base with
      | error e => simp [hc, bind, Except.bind]
      | ok dir =>
        by_cases he : (dir / l.path).normalize = here
        · simp [hc, he, bind, Except.bind, throw, throwThe, MonadExceptOf.throw]
        · have hok : (Except.ok (dir / l.path).normalize : Except Failure Path) = .ok d ↔
              d = (dir / l.path).normalize :=
            ⟨fun h => (Except.ok.inj h).symm, fun h => by rw [h]⟩
          simpa [hc, he, bind, Except.bind, pure, Except.pure] using hok

/-- A directory that is accepted and clean is taken as it is. -/
theorem baseDirectory_ofPath {dir dir' : Path} (hdir : dir.Clean)
    (h : baseDirectory (some (.ofPath dir)) = .ok dir') :
    dir' = dir ∧ '\x00' ∉ dir.text.toList := by
  unfold baseDirectory at h
  cases hr : (Spelling.ofPath dir).relative with
  | error e => simp [hr, bind, Except.bind] at h
  | ok p =>
    obtain ⟨hn, -, -, rfl⟩ := Spelling.relative_eq_ok_iff.mp hr
    simp only [hr, bind, Except.bind, pure, Except.pure] at h
    split at h
    · cases h
    · exact ⟨(Except.ok.inj h).symm.trans (normalize_of_noUp hdir.noUp), hn⟩

/-- Staged beneath a directory that was accepted and normalized before, a location comes
to lie beneath that directory. -/
theorem destination_contained {dir location d : Path} (hdir : dir.Clean)
    (h : destination (some (.ofPath dir)) (.ofPath location) = .ok d) :
    d.Clean ∧ d.segments ≠ [] ∧ '\x00' ∉ d.text.toList ∧ dir.segments <+: d.segments := by
  obtain ⟨hrel, hc, dir', hb, hne, rfl⟩ := destination_eq_ok_iff.mp h
  obtain ⟨rfl, hdn⟩ := baseDirectory_ofPath hdir hb
  obtain ⟨hn, ha, -, -⟩ := Spelling.relative_eq_ok_iff.mp hrel
  change location.isAbsolute = false at ha
  change location.climbsOut = false at hc
  change (dir' / location).normalize ≠ here at hne
  show (dir' / location).normalize.Clean ∧ (dir' / location).normalize.segments ≠ [] ∧
    '\x00' ∉ (dir' / location).normalize.text.toList ∧
    dir'.segments <+: (dir' / location).normalize.segments
  obtain ⟨hroot, hsegs, hup⟩ := normalize_div hdir.noUp ha hc
  have hrel' : (dir' / location).normalize.root = .relative :=
    hroot.trans (root_of_relative hdir.relative)
  refine ⟨⟨by simp [isAbsolute, hrel'], ?_⟩, ?_, ?_, ?_⟩
  · rw [hsegs, List.mem_append, not_or]
    exact ⟨hdir.noUp, hup⟩
  · intro he
    exact hne (Path.ext hrel' he)
  · -- A NUL would have stood in the directory or in the location, and both were judged.
    rw [mem_text_iff (by decide) (by decide), hsegs]
    rintro ⟨s, hs, hnul⟩
    rcases List.mem_append.mp hs with hs | hs
    · exact hdn ((mem_text_iff (by decide) (by decide)).mpr ⟨s, hs, hnul⟩)
    · exact hn ((mem_text_iff (by decide) (by decide)).mpr
        ⟨s, mem_of_mem_normalize hs, hnul⟩)
  · rw [hsegs]
    exact List.prefix_append _ _

end InputStaging.Path
