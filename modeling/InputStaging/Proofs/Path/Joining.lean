import InputStaging.Proofs.Path.Climbing

/-!
# Joining normal forms

To walk along a path is to walk along its normal form, from wherever the walk sets out. So a part
of a joined path can be normalized first, and the whole comes to the same normal form. As a path
climbs out exactly if some `..` is left in its normal form, it also climbs out in just the same
cases. Absolute paths are not treated here.
-/

namespace InputStaging.Path

variable {p q : Path}

/-- Whatever a step does to a trail, walking along the trail afterwards is walking along it before
and taking the step then. -/
theorem foldl_walk_step (trail : List String) (s : String) (at_ : Root × List String) :
    (walk (.relative, trail) s).2.reverse.foldl walk at_ =
      walk (trail.reverse.foldl walk at_) s := by
  by_cases hs : s = ".."
  · subst hs
    cases trail with
    | nil => rfl
    | cons top below =>
      by_cases htop : top = ".."
      · subst htop
        have hkept : walk (.relative, ".." :: below) ".." =
            (.relative, ".." :: ".." :: below) := rfl
        rw [hkept, List.reverse_cons, List.foldl_append]
        rfl
      · -- The newest segment is taken back on either side.
        have hback : ∀ reached : Root × List String, walk (walk reached top) ".." = reached := by
          rintro ⟨root, above⟩
          rw [walk_down htop, walk_up htop]
        rw [walk_up htop, List.reverse_cons, List.foldl_append]
        exact (hback _).symm
  · rw [walk_down hs, List.reverse_cons, List.foldl_append]
    rfl

/-- The trail that a walk leaves stands for the walk, from wherever it sets out. -/
theorem foldl_walk_trail (ss : List String) (at_ : Root × List String) : ∀ trail : List String,
    (ss.foldl walk (.relative, trail)).2.reverse.foldl walk at_ =
      ss.foldl walk (trail.reverse.foldl walk at_) := by
  -- The induction carries the trail that the walk has come with.
  induction ss with
  | nil => exact fun _ => rfl
  | cons s rest ih =>
    intro trail
    have hnext : walk (.relative, trail) s = (.relative, (walk (.relative, trail) s).2) :=
      Prod.ext (walk_root trail s) rfl
    rw [List.foldl_cons, List.foldl_cons, hnext, ih, foldl_walk_step]

theorem foldl_walk_normalize (hp : p.isAbsolute = false) (at_ : Root × List String) :
    p.normalize.segments.foldl walk at_ = p.segments.foldl walk at_ := by
  have hsegs : p.normalize.segments = (p.segments.foldl walk (.relative, [])).2.reverse := by
    rw [← root_of_relative hp]
    rfl
  rw [hsegs, foldl_walk_trail]
  rfl

/-- Relative paths along which one walks alike have one normal form. -/
theorem normalize_congr (hp : p.isAbsolute = false) (hq : q.isAbsolute = false)
    (h : ∀ at_, p.segments.foldl walk at_ = q.segments.foldl walk at_) :
    p.normalize = q.normalize := by
  have hroot : p.root = q.root := (root_of_relative hp).trans (root_of_relative hq).symm
  have hend : p.segments.foldl walk (p.root, []) = q.segments.foldl walk (q.root, []) := by
    rw [h, hroot]
  apply Path.ext
  · exact congrArg Prod.fst hend
  · exact congrArg (fun reached => reached.2.reverse) hend

theorem normalize_normalize (hp : p.isAbsolute = false) : p.normalize.normalize = p.normalize :=
  normalize_congr (isAbsolute_normalize hp) hp (foldl_walk_normalize hp)

/-- Either part of a joined path may be normalized before the whole is. -/
theorem normalize_div_normalize (hp : p.isAbsolute = false) (hq : q.isAbsolute = false) :
    (p.normalize / q).normalize = (p / q).normalize ∧
      (p / q.normalize).normalize = (p / q).normalize := by
  have hp' := isAbsolute_normalize hp
  have hq' := isAbsolute_normalize hq
  have hjoin := isAbsolute_div_of_relative hp hq
  constructor
  · apply normalize_congr (isAbsolute_div_of_relative hp' hq) hjoin
    intro at_
    rw [segments_div hq, segments_div hq, List.foldl_append, List.foldl_append,
      foldl_walk_normalize hp]
  · apply normalize_congr (isAbsolute_div_of_relative hp hq') hjoin
    intro at_
    rw [segments_div hq', segments_div hq, List.foldl_append, List.foldl_append,
      foldl_walk_normalize hq]

theorem climbsOut_iff_up (hp : p.isAbsolute = false) :
    p.climbsOut = true ↔ ".." ∈ p.normalize.segments := by
  obtain ⟨n, down, hdown, hsegs, hiff⟩ := exists_ups hp
  rw [hiff, hsegs, List.mem_append, List.mem_replicate]
  have hpos : n ≠ 0 ↔ 0 < n := Nat.pos_iff_ne_zero.symm
  simp [hdown, hpos]

/-- That the first part climbs out is still seen once it is normalized. -/
theorem climbsOut_div_iff (hp : p.isAbsolute = false) (hq : q.isAbsolute = false) :
    (p / q).climbsOut = true ↔ (p.normalize / q).climbsOut = true := by
  have hnormal := (normalize_div_normalize hp hq).1
  have hjoin := isAbsolute_div_of_relative hp hq
  have hjoin' := isAbsolute_div_of_relative (isAbsolute_normalize hp) hq
  rw [climbsOut_iff_up hjoin, climbsOut_iff_up hjoin', hnormal]

theorem climbsOut_div_of_left (hp : p.isAbsolute = false) (hq : q.isAbsolute = false)
    (h : p.climbsOut = true) : (p / q).climbsOut = true := by
  apply Decidable.byContradiction
  intro hstays
  have hstay : p.climbsOut = false := climbsOut_of_div hp hq (Bool.eq_false_iff.mpr hstays)
  rw [hstay] at h
  cases h

/-- A relative path climbs out exactly if some `..` is left in its normal form. Normalizing is
idempotent, and joining is compatible with both. -/
theorem normal_forms_join (p q : Path) (hp : p.isAbsolute = false) (hq : q.isAbsolute = false) :
    (p.climbsOut = true ↔ ".." ∈ p.normalize.segments) ∧
      p.normalize.normalize = p.normalize ∧
      (p / q).normalize = (p.normalize / q.normalize).normalize ∧
      ((p / q).climbsOut = true ↔
        p.climbsOut = true ∨ (p.normalize / q).climbsOut = true) := by
  have hp' := isAbsolute_normalize hp
  have hboth : (p / q).normalize = (p.normalize / q.normalize).normalize := by
    rw [(normalize_div_normalize hp' hq).2, (normalize_div_normalize hp hq).1]
  refine ⟨climbsOut_iff_up hp, normalize_normalize hp, hboth, ?_⟩
  constructor
  · intro h
    exact .inr ((climbsOut_div_iff hp hq).mp h)
  · rintro (h | h)
    · exact climbsOut_div_of_left hp hq h
    · exact (climbsOut_div_iff hp hq).mpr h

/-- Two paths that go down, up again and further up. -/
theorem normal_forms_join_ups :
    let p := ofString "a/../../b"
    let q := ofString "../../c"
    p.isAbsolute = false ∧ q.isAbsolute = false ∧ p.normalize = ofString "../b" ∧
      (p / q).normalize = ofString "../../c" ∧
      (p / q).normalize = (p.normalize / q.normalize).normalize ∧ (p / q).climbsOut = true := by
  intro p q
  have hp : p.isAbsolute = false := by decide
  have hq : q.isAbsolute = false := by decide
  obtain ⟨hup, -, hjoin, hclimbs⟩ := normal_forms_join p q hp hq
  have hleft : ".." ∈ p.normalize.segments := by decide
  exact ⟨hp, hq, by decide, by decide, hjoin, hclimbs.mpr (.inl (hup.mpr hleft))⟩

end InputStaging.Path
