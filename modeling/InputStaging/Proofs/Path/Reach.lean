import InputStaging.Proofs.Path.Climbing
import InputStaging.Proofs.Path.Text

/-!
# One walk

`climbsOut` counts levels and `normalize` keeps a trail. `reach?` does neither: it goes from
directory to directory along the segments, and stops where there is nothing above. From a clean
directory all three march in step, so that the walk fails exactly if the joined path climbs out,
and otherwise ends at its normal form.
-/

namespace InputStaging.Path

/-- Where a walk along the segments comes to from a directory. There is no way up from a path
without segments. -/
def reach? : Path → List String → Option Path
  | dir, [] => some dir
  | dir, s :: rest =>
    if s = ".." then if dir.segments = [] then none else reach? dir.parent rest
    else reach? (dir / ofString s) rest

theorem ofString_of_isSegment {s : String} (h : IsSegment s) :
    (ofString s).isAbsolute = false ∧ (ofString s).segments = [s] := by
  let single : Path := ⟨.relative, [s], by simpa using h⟩
  have htext : single.text = s := by
    show (if _ then "." else _) = s
    rw [if_neg (by simp [single])]
    simp [single, Root.text]
  have hread : ofString s = single := by rw [← htext, ofString_text]
  rw [hread]
  exact ⟨rfl, rfl⟩

variable {dir p q : Path} {s : String}

theorem Clean.parent (h : dir.Clean) : dir.parent.Clean :=
  ⟨h.relative, fun hup => h.noUp (List.dropLast_subset _ hup)⟩

theorem Clean.child (h : dir.Clean) (hs : IsSegment s) (hne : s ≠ "..") :
    (dir / ofString s).Clean ∧ (dir / ofString s).segments = dir.segments ++ [s] := by
  obtain ⟨hrel, hsegs⟩ := ofString_of_isSegment hs
  have hchild : (dir / ofString s).segments = dir.segments ++ [s] := by
    rw [segments_div hrel, hsegs]
  refine ⟨⟨isAbsolute_div_of_relative h.relative hrel, ?_⟩, hchild⟩
  rw [hchild, List.mem_append, not_or]
  exact ⟨h.noUp, by simpa using Ne.symm hne⟩

theorem climbs_down {depth : Nat} {rest : List String} (h : s ≠ "..") :
    climbs depth (s :: rest) = climbs (depth + 1) rest := by
  simp [climbs, h]

theorem climbs_append_of_noUp {ss : List String} (h : ".." ∉ ss) (depth : Nat)
    (rest : List String) : climbs depth (ss ++ rest) = climbs (depth + ss.length) rest := by
  induction ss generalizing depth with
  | nil => rfl
  | cons s ss ih =>
    rw [List.mem_cons, not_or] at h
    rw [List.cons_append, climbs_down (Ne.symm h.1), ih h.2, List.length_cons, Nat.add_assoc,
      Nat.add_comm 1]

/-- The count of levels, the trail and the walk, step by step. -/
theorem reach?_march {ss : List String} (hss : ∀ s ∈ ss, IsSegment s) (hdir : dir.Clean) :
    match dir.reach? ss with
    | none => climbs dir.segments.length ss = true
    | some q => climbs dir.segments.length ss = false ∧ q.Clean ∧
        ss.foldl walk (.relative, dir.segments.reverse) = (.relative, q.segments.reverse) := by
  induction ss generalizing dir with
  | nil => exact ⟨rfl, hdir, rfl⟩
  | cons s rest ih =>
    obtain ⟨hs, hrest⟩ := List.forall_mem_cons.mp hss
    by_cases hup : s = ".."
    · subst hup
      rcases List.eq_nil_or_concat dir.segments with hnil | ⟨above, top, hsegs⟩
      · simp [reach?, hnil, climbs]
      · rw [List.concat_eq_append] at hsegs
        have habove : dir.parent.segments = above := by simp [parent, hsegs]
        have htop : top ≠ ".." := fun he => hdir.noUp (by simp [hsegs, he])
        have hstep := ih hrest hdir.parent
        rw [habove] at hstep
        rw [reach?, if_pos rfl, if_neg (by simp [hsegs]), hsegs, List.reverse_append,
          List.length_append, List.foldl_cons, List.reverse_singleton, List.singleton_append,
          walk_up htop]
        exact hstep
    · obtain ⟨hclean, hchild⟩ := hdir.child hs hup
      have hstep := ih hrest hclean
      rw [hchild, List.reverse_append, List.length_append] at hstep
      rw [reach?, if_neg hup, List.foldl_cons, walk_down hup, climbs_down hup]
      exact hstep

/-- A walk fails exactly if the joined path climbs out, and else it ends at the normal form. -/
theorem reach?_eq (hdir : dir.Clean) (hp : p.isAbsolute = false) :
    dir.reach? p.segments =
      if (dir / p).climbsOut then none else some (dir / p).normalize := by
  have hjoin := isAbsolute_div_of_relative hdir.relative hp
  have hcount : (dir / p).climbsOut = climbs dir.segments.length p.segments := by
    rw [climbsOut_of_relative hjoin, segments_div hp, climbs_append_of_noUp hdir.noUp,
      Nat.zero_add]
  have hmarch := reach?_march p.isSegment hdir
  rw [hcount]
  cases hreach : dir.reach? p.segments with
  | none =>
    rw [hreach] at hmarch
    rw [if_pos hmarch]
  | some q =>
    rw [hreach] at hmarch
    obtain ⟨hlevel, hq, htrail⟩ := hmarch
    have hend : (dir / p).segments.foldl walk ((dir / p).root, []) =
        (.relative, q.segments.reverse) := by
      rw [root_of_relative hjoin, segments_div hp, List.foldl_append,
        foldl_walk_of_noUp hdir.noUp, List.append_nil, htrail]
    rw [hlevel, if_neg (by simp)]
    refine congrArg some (Path.ext ?_ ?_)
    · show q.root = ((dir / p).segments.foldl walk ((dir / p).root, [])).1
      rw [hend, root_of_relative hq.relative]
    · show q.segments = ((dir / p).segments.foldl walk ((dir / p).root, [])).2.reverse
      rw [hend, List.reverse_reverse]

end InputStaging.Path
