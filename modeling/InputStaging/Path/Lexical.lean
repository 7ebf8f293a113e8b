import InputStaging.Path.Basic

/-!
# Lexical walks

`normalize` collapses `..` against the segment before it; `climbsOut` says whether a
walk along the segments ever leaves the place where it started. Both are single
passes over the segments. Neither follows links, so `a/..` is `.` whatever `a` is.
-/

namespace InputStaging

namespace Path

/-- One level up from a trail, newest segment first. Above nothing a `..` is kept;
at a root it drops the root. -/
def up : Root → List String → Root × List String
  | root, top :: rest => if top = ".." then (root, ".." :: top :: rest) else (root, rest)
  | .relative, [] => (.relative, [".."])
  | _, [] => (.relative, [])

/-- One step of a walk. -/
def walk (at_ : Root × List String) (s : String) : Root × List String :=
  if s = ".." then up at_.1 at_.2 else (at_.1, s :: at_.2)

theorem mem_up {root : Root} {trail : List String} {t : String} (h : t ∈ (up root trail).2) :
    t ∈ trail ∨ t = ".." := by
  match root, trail with
  | root, top :: rest =>
    by_cases ht : top = ".." <;> simp_all [up]
  | .relative, [] => simp_all [up]
  | .slash, [] => simp_all [up]
  | .doubleSlash, [] => simp_all [up]

theorem mem_walk {at_ : Root × List String} {s t : String} (h : t ∈ (walk at_ s).2) :
    t ∈ at_.2 ∨ t = s := by
  by_cases hs : s = ".."
  · subst hs
    exact mem_up (by simpa [walk] using h)
  · have := List.mem_cons.mp (by simpa [walk, hs] using h : t ∈ s :: at_.2)
    exact this.symm

theorem mem_foldl_walk {ss : List String} {at_ : Root × List String} {t : String}
    (h : t ∈ (ss.foldl walk at_).2) : t ∈ at_.2 ∨ t ∈ ss := by
  induction ss generalizing at_ with
  | nil => exact .inl h
  | cons s ss ih =>
    rcases ih h with h | h
    · rcases mem_walk h with h | h
      · exact .inl h
      · exact .inr (by simp [h])
    · exact .inr (List.mem_cons_of_mem _ h)

/-- Where the walk along the segments ends. -/
def normalize (p : Path) : Path where
  root := (p.segments.foldl walk (p.root, [])).1
  segments := (p.segments.foldl walk (p.root, [])).2.reverse
  isSegment := fun s h => by
    rcases mem_foldl_walk (List.mem_reverse.mp h) with h | h
    · simp at h
    · exact p.isSegment s h

/-- A walk that starts `depth` levels deep and climbs above level zero. -/
def climbs : Nat → List String → Bool
  | _, [] => false
  | depth, s :: rest =>
    if s = ".." then
      match depth with
      | 0 => true
      | d + 1 => climbs d rest
    else climbs (depth + 1) rest

/-- The path climbs above the directory it is taken from. A root counts as one level. -/
def climbsOut (p : Path) : Bool :=
  climbs (if p.isAbsolute then 1 else 0) p.segments

/-- The parts of `p` begin the parts of `q`. -/
def isPrefixOf (p q : Path) : Bool :=
  p.root = q.root && p.segments.isPrefixOf q.segments

/-- Once both are normalized, the path is the directory or lies beneath it. Under the
empty directory lies every path that does not climb out. -/
def isWithin (p dir : Path) : Bool :=
  if dir.normalize = here then !p.climbsOut
  else dir.normalize.isPrefixOf p.normalize

end Path

end InputStaging
