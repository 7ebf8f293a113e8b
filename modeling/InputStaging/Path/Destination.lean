import InputStaging.Failure

/-!
# Destinations

A destination is sandbox-relative and lies beneath the sandbox root. A location is
checked in the spelling it was given in, and reported in that spelling; only then is it
joined to the base directory and normalized. The checks are not repeated on the result.
-/

namespace InputStaging

/-- A path together with the text by which it was named. -/
structure Spelling where
  text : String
  path : Path

namespace Spelling

def ofString (s : String) : Spelling := ⟨s, Path.ofString s⟩

/-- The canonical spelling. -/
def ofPath (p : Path) : Spelling := ⟨p.text, p⟩

instance : Coe Path Spelling := ⟨ofPath⟩

/-- No NUL, not absolute, no drive in front. -/
def relative (l : Spelling) : Except Failure Path :=
  if '\x00' ∈ l.text.toList then .error (.location l.text .nullByte)
  else if l.path.isAbsolute then .error (.location l.text .absolute)
  else if l.path.segments.head?.any (·.toList.getLast? = some ':') then
    .error (.location l.text .drivePrefix)
  else .ok l.path

theorem relative_eq_ok_iff {l : Spelling} {p : Path} :
    l.relative = .ok p ↔ '\x00' ∉ l.text.toList ∧ l.path.isAbsolute = false ∧
      l.path.segments.head?.any (·.toList.getLast? = some ':') = false ∧ p = l.path := by
  unfold relative
  by_cases hn : '\x00' ∈ l.text.toList
  · simp [hn]
  · by_cases ha : l.path.isAbsolute = true
    · simp [hn, ha]
    · by_cases hd : l.path.segments.head?.any (·.toList.getLast? = some ':') = true
      · simp only [hn, ha, hd, if_true, if_false]
        simp
      · simp only [Bool.not_eq_true] at ha hd
        simp only [hn, ha, hd]
        simp [eq_comm]

end Spelling

namespace Path

/-- The base directory of a mapping, normalized. None given is the sandbox root. -/
def baseDirectory : Option Spelling → Except Failure Path
  | none => .ok here
  | some l => do
    let base ← l.relative
    if base.climbsOut then throw (.location base.text .baseOutsideSandbox)
    return base.normalize

/-- Where a location is staged beneath the base directory. The location is judged
before the base, and an empty result last. -/
def destination (base : Option Spelling) (l : Spelling) : Except Failure Path := do
  let relative ← l.relative
  if relative.climbsOut then throw (.location relative.text .outsideSandbox)
  let path := (← baseDirectory base) / relative
  if path.normalize = here then throw (.location l.text .isSandboxRoot)
  return path.normalize

end Path

end InputStaging
