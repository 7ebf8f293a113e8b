import InputStaging.Ledger
import InputStaging.Path.Destination

/-!
# Staging

The steps of a mapping call: they write to the ledger, tell events, and may fail.
A failure keeps what was written and told before it.
-/

namespace InputStaging

/-- How far a call has come. -/
structure Progress where
  ledger : Ledger := {}
  log : List Event := []

abbrev Staging := ExceptT Failure (StateM Progress)

namespace Staging

def tell (events : List Event) : Staging Unit :=
  modify fun p => { p with log := p.log ++ events }

def lift {α : Type} : Except Failure α → Staging α
  | .ok a => pure a
  | .error e => throw e

def enter (phase : Phase) : Staging Unit :=
  modify fun p => { p with ledger := { p.ledger with phase } }

def write (path : Path) (v : Input) : Staging Unit := do
  let (ledger, events, outcome) := (← get).ledger.write path v
  modify fun p => { p with ledger }
  tell events
  lift outcome

/-- Stage an input at a location beneath the base directory. The location is judged
before the ledger is touched. -/
def stage (base : Option Spelling) (location : Spelling) (v : Input) : Staging Path := do
  let path ← lift (Path.destination base location)
  write path v
  return path

/-- Stage several inputs in order, and count them. -/
def stageAll (base : Option Spelling) : List (Path × Input) → Staging Nat
  | [] => pure 0
  | (location, v) :: rest => do
    let _ ← stage base (.ofPath location) v
    return (← stageAll base rest) + 1

end Staging

end InputStaging
