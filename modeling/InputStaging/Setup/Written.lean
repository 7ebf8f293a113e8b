import InputStaging.Document.Schema
import InputStaging.Ledger

/-!
# Settings as they are written

The fields of the settings, before the execution root is looked up. What can be chosen is
chosen by name, so that whatever is chosen has one.
-/

namespace InputStaging.Settings

/-- All settings but the execution root. -/
structure Choices where
  strict : Bool := false
  policy : EscapePolicy := .error
  conflictMode : ConflictMode := .overwrite
  /-- How many mappings may run at once; none given leaves it to the service. -/
  maxConcurrent : Option Nat := none
  policy_known : policy ∈ EscapePolicy.known := by decide
  limit_pos : ∀ n ∈ maxConcurrent, 1 ≤ n := by simp

/-- Settings in which the execution root is still the text that names it. -/
structure Written extends Choices where
  execRoot : String := "."

open Document

/-- What is written for the execution root; the working directory is meant by default. -/
def rootDocument (es : List (Document × Document)) : Document :=
  (valueOf? es "exec_root").getD (.text ".")

namespace Written

def policies : List (String × { p : EscapePolicy // p ∈ EscapePolicy.known }) :=
  EscapePolicy.known.attach.map fun p => (p.1.label, p)

def modes : List (String × ConflictMode) := ConflictMode.known.map fun m => (m.label, m)

/-- The fields of a record of settings. -/
def readFields (readRoot : Reader String) (es : List (Document × Document)) : Checked Written :=
  (readField "exec_root" (readRoot (.text ".")) readRoot es
    |>.and (readField "strict" (.ok false) readBool es)
    |>.and (readField "relative_symlink_policy" (.ok ⟨.error, by decide⟩)
      (readName policies .member) es)
    |>.and (readField "conflict_mode" (.ok .overwrite) (readName modes .literal) es)
    |>.and (readField "max_concurrent_mappings" (.ok none) (orNull readPositive) es)).map
    fun ((((execRoot, strict), policy), conflictMode), limit) => {
      execRoot
      strict
      policy := policy.1
      conflictMode
      maxConcurrent := limit.map Subtype.val
      policy_known := policy.2
      limit_pos := by
        intro n hn
        obtain ⟨m, -, rfl⟩ := Option.map_eq_some_iff.mp hn
        exact m.2 }

end Written

end InputStaging.Settings
