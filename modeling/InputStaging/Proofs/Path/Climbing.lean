import InputStaging.Proofs.Path.NormalForm

/-!
# How far a path climbs

The normal form of a relative path goes up some levels and down from there. It goes up exactly if
the path climbs out, so that counting levels and keeping a trail come to the same. No path stops
climbing because another one is joined to it.
-/

namespace InputStaging.Path

/-- A walk from a trail that is above the start keeps going down from where it is at its highest. -/
theorem foldl_walk_ups (ss : List String) : ∀ (made : List String) (n : Nat), ".." ∉ made →
    ∃ m made', n ≤ m ∧ ".." ∉ made' ∧
      ss.foldl walk (.relative, made ++ List.replicate n "..") =
        (.relative, made' ++ List.replicate m "..") ∧
      (climbs made.length ss = true ↔ n < m) := by
  -- The levels above the start are kept at the far end of the trail, where nothing removes them.
  induction ss with
  | nil => exact fun made n hm => ⟨n, made, Nat.le_refl n, hm, rfl, by simp [climbs]⟩
  | cons s rest ih =>
    intro made n hm
    by_cases hs : s = ".."
    · subst hs
      cases made with
      | nil =>
        have hup : walk (.relative, List.replicate n "..") ".." =
            (.relative, List.replicate (n + 1) "..") := by
          cases n <;> rfl
        obtain ⟨m, made', hle, hm', hw, -⟩ := ih [] (n + 1) (by simp)
        refine ⟨m, made', by omega, hm', ?_, ?_⟩
        · rw [List.foldl_cons, List.nil_append, hup]
          exact hw
        · have hlt : n < m := by omega
          simp [climbs, hlt]
      | cons top made =>
        have htop : top ≠ ".." := fun he => hm (by simp [he])
        obtain ⟨m, made', hle, hm', hw, hiff⟩ := ih made n
          fun hin => hm (List.mem_cons_of_mem _ hin)
        refine ⟨m, made', hle, hm', ?_, by simpa [climbs] using hiff⟩
        rw [List.foldl_cons, List.cons_append, walk_up htop]
        exact hw
    · obtain ⟨m, made', hle, hm', hw, hiff⟩ := ih (s :: made) n
        (by simp [hm, Ne.symm hs])
      refine ⟨m, made', hle, hm', ?_, by simpa [climbs, hs] using hiff⟩
      rw [List.foldl_cons, walk_down hs]
      exact hw

variable {p q : Path}

theorem exists_ups (hp : p.isAbsolute = false) :
    ∃ n down, ".." ∉ down ∧ p.normalize.segments = List.replicate n ".." ++ down ∧
      (p.climbsOut = true ↔ 0 < n) := by
  obtain ⟨n, made, -, hm, hw, hiff⟩ := foldl_walk_ups p.segments [] 0 (by simp)
  refine ⟨n, made.reverse, by simpa using hm, ?_, ?_⟩
  · show (p.segments.foldl walk (p.root, [])).2.reverse = _
    rw [root_of_relative hp, show p.segments.foldl walk (.relative, []) = (_, _) from hw]
    simp
  · rw [climbsOut_of_relative hp]
    exact hiff

/-- A normal form that does not climb is clean. -/
theorem clean_of_not_climbs (hp : p.isAbsolute = false) (hc : p.normalize.climbsOut = false) :
    p.normalize.Clean := by
  have hrel := isAbsolute_normalize hp
  obtain ⟨n, down, hdown, hsegs, -⟩ := exists_ups hp
  refine ⟨hrel, ?_⟩
  rw [climbsOut_of_relative hrel, hsegs] at hc
  cases n with
  | zero => simpa [hsegs] using hdown
  | succ n => simp [List.replicate_succ, climbs] at hc

theorem climbs_append {ss rest : List String} {depth : Nat}
    (h : climbs depth (ss ++ rest) = false) : climbs depth ss = false := by
  induction ss generalizing depth with
  | nil => rfl
  | cons s ss ih =>
    rw [List.cons_append] at h
    by_cases hs : s = ".."
    · subst hs
      cases depth with
      | zero => simp [climbs] at h
      | succ depth =>
        simp only [climbs, if_true] at h ⊢
        exact ih h
    · simp only [climbs, hs, if_false] at h ⊢
      exact ih h

theorem climbsOut_of_div (hp : p.isAbsolute = false) (hq : q.isAbsolute = false)
    (h : (p / q).climbsOut = false) : p.climbsOut = false := by
  rw [climbsOut_of_relative (isAbsolute_div_of_relative hp hq), segments_div hq] at h
  rw [climbsOut_of_relative hp]
  exact climbs_append h

end InputStaging.Path
