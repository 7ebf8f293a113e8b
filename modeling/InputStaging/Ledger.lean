import InputStaging.Failure
import InputStaging.Log

/-!
# The ledger of one mapping call

Destinations with the inputs written there, and beside each destination the phase that
wrote it last. A write is compared only with the entry it replaces, and only across
phases: writing again within a phase is always silent.
-/

namespace InputStaging

/-- Reaction to a different input written over an entry of another phase. -/
inductive ConflictMode where
  | overwrite
  | warn
  | error
  deriving DecidableEq, Repr

namespace ConflictMode

def label : ConflictMode → String
  | overwrite => "overwrite"
  | warn => "warn"
  | error => "error"

def known : List ConflictMode := [overwrite, warn, error]

def ofLabel? (l : String) : Option ConflictMode := known.find? (·.label = l)

/-- Only silence and refusal are modes that have to be asked for by name. -/
def ofLabel (l : String) : ConflictMode := (ofLabel? l).getD warn

end ConflictMode

/-- A part of a mapping call, told apart by its name. -/
structure Phase where
  name : String
  deriving DecidableEq, Repr

namespace Phase

def inputs : Phase := ⟨"inputs"⟩

def runfiles : Phase := ⟨"runfiles"⟩

def filesets : Phase := ⟨"filesets"⟩

end Phase

structure Ledger where
  mode : ConflictMode := .overwrite
  phase : Phase := .inputs
  entries : Table Path Input := ∅
  writers : Table Path Phase := ∅
  /-- Destinations of the conflicts met so far, in order. -/
  conflicts : List Path := []

namespace Ledger

/-- The phase whose entry a write at this path would replace, where that matters. -/
def rival? (l : Ledger) (p : Path) : Option Phase :=
  if l.mode = .overwrite then none else (l.writers.get? p).filter (· ≠ l.phase)

/-- Write without looking. -/
def put (l : Ledger) (p : Path) (v : Input) : Ledger :=
  { l with writers := l.writers.insert p l.phase, entries := l.entries.insert p v }

/-- Write an input at a destination. A conflict is recorded whether or not it makes the
write fail; a write that fails leaves entries, writers and phase as they were. -/
def write (l : Ledger) (p : Path) (v : Input) : Ledger × List Event × Except Failure Unit :=
  match l.rival? p with
  | none => (l.put p v, [], .ok ())
  | some writer =>
    match l.entries.get? p with
    | none => (l, [], .error (.forgotten p))
    | some previous =>
      if previous = v then (l.put p v, [], .ok ())
      else
        let l := { l with conflicts := l.conflicts ++ [p] }
        if l.mode = .error then (l, [], .error (.conflict p previous v))
        else (l.put p v, [.inputReplaced l.phase.name writer.name previous v p], .ok ())

end Ledger

namespace Table

/-- The entries in the order of their paths. -/
def sorted {α : Type} (t : Table Path α) : List (Path × α) :=
  t.entries.mergeSort fun a b => a.1.le b.1

theorem mem_sorted_iff {α : Type} {t : Table Path α} {p : Path} {a : α} :
    (p, a) ∈ t.sorted ↔ t.get? p = some a := by
  rw [sorted, List.mem_mergeSort]
  exact (find_eq_some_iff t.nodup).symm

end Table

end InputStaging
