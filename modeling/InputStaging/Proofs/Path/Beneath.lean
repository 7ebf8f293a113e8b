import InputStaging.Proofs.Path.NormalForm
import InputStaging.Proofs.Path.Order

/-!
# Beneath a directory

Going beneath a relative directory keeps paths apart and keeps their order. A location
comes to lie beneath an accepted directory just where it lies in the sandbox root, and is
refused for the same reason, with one exception: what names the root of the sandbox names the
directory then, and that is not refused.
-/

namespace InputStaging.Path

variable {dir p q : Path}

/-- Different paths are different beneath a directory. -/
theorem div_injective (hdir : dir.isAbsolute = false) :
    Function.Injective (dir / · : Path → Path) := by
  intro p q h
  change dir / p = dir / q at h
  cases hp : p.isAbsolute with
  | true =>
    cases hq : q.isAbsolute with
    | true => rwa [div_of_isAbsolute hp, div_of_isAbsolute hq] at h
    | false =>
      rw [div_of_isAbsolute hp] at h
      rw [h, isAbsolute_div_of_relative hdir hq] at hp
      cases hp
  | false =>
    cases hq : q.isAbsolute with
    | true =>
      rw [div_of_isAbsolute hq] at h
      rw [← h, isAbsolute_div_of_relative hdir hp] at hq
      cases hq
    | false =>
      have hs := congrArg Path.segments h
      rw [segments_div hp, segments_div hq] at hs
      exact Path.ext ((root_of_relative hp).trans (root_of_relative hq).symm)
        (List.append_cancel_left hs)

theorem rank_div (hdir : dir.isAbsolute = false) (hp : p.isAbsolute = false) :
    (dir / p).rank = dir.rank ++ p.rank := by
  have hjoin := rank_of_relative (isAbsolute_div_of_relative hdir hp)
  rw [hjoin, rank_of_relative hdir, rank_of_relative hp, segments_div hp, List.map_append]

theorem append_lt_append_iff {as bs cs : List (List Nat)} : as ++ bs < as ++ cs ↔ bs < cs := by
  induction as with
  | nil => exact Iff.rfl
  | cons a as ih => rw [List.cons_append, List.cons_append, List.cons_lt_cons_self, ih]

/-- Paths beneath a directory are in the order they are in by themselves. -/
theorem le_div (hdir : dir.isAbsolute = false) (hp : p.isAbsolute = false)
    (hq : q.isAbsolute = false) : (dir / p).le (dir / q) = p.le q := by
  rw [Bool.eq_iff_iff, le_iff, le_iff, rank_div hdir hp, rank_div hdir hq, append_lt_append_iff]

/-! ## Destinations -/

theorem baseDirectory_here : baseDirectory (some (.ofPath here)) = .ok here := by rfl

/-- What is accepted in the sandbox root is accepted beneath every directory, and lies there as it
lies in the root. -/
theorem destination_div_of_ok {l : Spelling} {d : Path}
    (hdir : baseDirectory (some (.ofPath dir)) = .ok dir)
    (h : destination (some (.ofPath here)) l = .ok d) :
    destination (some (.ofPath dir)) l = .ok (dir / d) := by
  obtain ⟨hrel, hc, root, hroot, hne, rfl⟩ := destination_eq_ok_iff.mp h
  obtain rfl := Except.ok.inj (baseDirectory_here.symm.trans hroot)
  obtain ⟨-, ha, -, -⟩ := Spelling.relative_eq_ok_iff.mp hrel
  rw [here_div ha] at hne ⊢
  have hclean := baseDirectory_clean hdir
  have hd : (dir / l.path).normalize = dir / l.path.normalize := normalize_div_eq hclean.noUp ha hc
  refine destination_eq_ok_iff.mpr ⟨hrel, hc, dir, hdir, fun he => hne ?_, hd.symm⟩
  rw [hd] at he
  exact ((div_eq_here_iff hclean.relative (clean_normalize ha hc).relative).mp he).2

/-- What is refused in the sandbox root is refused beneath every directory, unless it is the root
itself. -/
theorem destination_div_of_error {l : Spelling} {failure : Failure}
    (h : destination (some (.ofPath here)) l = .error failure)
    (hne : ∀ text, failure ≠ .location text .isSandboxRoot) (base : Option Spelling) :
    destination base l = .error failure := by
  unfold destination at h ⊢
  cases hr : l.relative with
  | error e =>
    rw [hr] at h
    exact h
  | ok p =>
    simp only [hr, bind, Except.bind, baseDirectory_here] at h ⊢
    split at h
    next hc =>
      rw [if_pos hc]
      exact h
    next hc =>
      split at h
      · obtain rfl := Except.error.inj h
        exact absurd rfl (hne l.text)
      · cases h

end InputStaging.Path
