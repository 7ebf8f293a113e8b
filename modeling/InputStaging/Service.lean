import InputStaging.Engine
import InputStaging.Setup.Settings

/-!
# The mapping service

Maps the inputs of many actions with one engine. How many calls run at once is bounded;
what a call returns does not depend on the others.
-/

namespace InputStaging

/-- All that one call is given. -/
structure Request where
  action : Action
  expander : Expander
  base : Option Spelling
  metadata : Metadata

structure Service where
  engine : Engine
  /-- How many calls may run at once. -/
  limit : Nat

namespace Service

/-- No limit, or a limit of zero, stands for the number of processors. -/
def make (engine : Engine) (limit : Option Int) (processors : Nat) : Except Failure Service :=
  match limit.filter (· ≠ 0) with
  | none => .ok ⟨engine, max processors 1⟩
  | some n => if n < 0 then .error .negativeLimit else .ok ⟨engine, n.toNat⟩

def ofSettings (s : Settings) (processors : Nat) : Except Failure Service :=
  make (.ofSettings s) (s.maxConcurrent.map Int.ofNat) processors

def started (s : Service) : Event := .serviceStarted s.limit

def map (s : Service) (r : Request) : Except Failure (List (Path × Input)) :=
  (s.engine.map r.action r.expander r.base r.metadata).1

/-- The outcomes in the order of the requests, or the first failure among them. -/
def mapAll (s : Service) (rs : List Request) : Except Failure (List (List (Path × Input))) :=
  rs.mapM s.map

/-! ## Calls side by side -/

/-- What has become of a call. -/
inductive Call where
  | waiting
  | running
  | done (outcome : Except Failure (List (Path × Input)))

namespace Call

def isRunning : Call → Bool
  | running => true
  | waiting | done _ => false

def outcome? : Call → Option (Except Failure (List (Path × Input)))
  | done outcome => some outcome
  | waiting | running => none

end Call

/-- How far the calls of a service have come, each beside its request. -/
structure Agenda where
  /-- How many more calls may begin. -/
  permits : Nat
  calls : List (Request × Call)

namespace Agenda

def active (a : Agenda) : Nat := a.calls.countP (·.2.isRunning)

/-- Once all calls are done: their outcomes in the order of the requests, or the first failure
among them. -/
def outcome? (a : Agenda) : Option (Except Failure (List (List (Path × Input)))) :=
  (a.calls.mapM fun (c : Request × Call) => c.2.outcome?).map (·.mapM id)

end Agenda

/-- All calls are waiting. -/
def begin (s : Service) (rs : List Request) : Agenda := ⟨s.limit, rs.map (·, .waiting)⟩

/-- A call begins, if another one may, or one comes to its end. Which one it is, is left open. -/
inductive Step (s : Service) : Agenda → Agenda → Prop
  | begins {permits : Nat} {before after : List (Request × Call)} {r : Request} :
      Step s ⟨permits + 1, before ++ (r, .waiting) :: after⟩
        ⟨permits, before ++ (r, .running) :: after⟩
  | ends {permits : Nat} {before after : List (Request × Call)} {r : Request} :
      Step s ⟨permits, before ++ (r, .running) :: after⟩
        ⟨permits + 1, before ++ (r, .done (s.map r)) :: after⟩

end Service

end InputStaging
