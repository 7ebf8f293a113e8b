import InputStaging.Engine

/-!
# Scripts of calls

Which locations a call stages, in which order, what it tells in between and where it
breaks off by itself does not depend on the base directory, nor on what is in the
ledger. A script holds just that, and playing it beneath a base directory is the call.
What the last event of a call counts is the one thing that a script does not know.
-/

namespace InputStaging

inductive Script.Step where
  | tell (events : List Event)
  | enter (phase : Phase)
  | stage (location : Path) (v : Input)

namespace Script.Step

def run (base : Option Spelling) (p : Progress) : Script.Step → Except Failure Unit × Progress
  | tell events => (.ok (), { p with log := p.log ++ events })
  | enter phase => (.ok (), { p with ledger := { p.ledger with phase } })
  | stage location v =>
    match Path.destination base (.ofPath location) with
    | .error e => (.error e, p)
    | .ok path =>
      let (ledger, events, outcome) := p.ledger.write path v
      (outcome, { ledger, log := p.log ++ events })

/-- A location that is refused leaves everything as it was. -/
theorem run_stage_error {base : Option Spelling} {location : Path} {e : Failure}
    (h : Path.destination base (.ofPath location) = .error e) (v : Input) (p : Progress) :
    (stage location v).run base p = (.error e, p) := by
  simp [run, h]

/-- A location that is accepted is written to, with whatever the ledger has to say about that. -/
theorem run_stage_ok {base : Option Spelling} {location d : Path}
    (h : Path.destination base (.ofPath location) = .ok d) (v : Input) (p : Progress) :
    (stage location v).run base p =
      ((p.ledger.write d v).2.2,
        { ledger := (p.ledger.write d v).1, log := p.log ++ (p.ledger.write d v).2.1 }) := by
  simp [run, h]

/-- Steps one after another, up to the first that fails. -/
def runAll (base : Option Spelling) : List Script.Step → Progress → Except Failure Unit × Progress
  | [], p => (.ok (), p)
  | s :: rest, p =>
    match s.run base p with
    | (.ok (), p) => runAll base rest p
    | (.error e, p) => (.error e, p)

theorem runAll_of_step_ok {base : Option Spelling} {s : Script.Step} {p p₁ : Progress}
    (h : s.run base p = (.ok (), p₁)) (rest : List Script.Step) :
    runAll base (s :: rest) p = runAll base rest p₁ := by
  rw [runAll, h]

/-- What comes after a step that fails is not taken. -/
theorem runAll_of_step_error {base : Option Spelling} {s : Script.Step} {p : Progress} {e : Failure}
    (h : (s.run base p).1 = .error e) (rest : List Script.Step) :
    runAll base (s :: rest) p = s.run base p := by
  rw [runAll]
  rcases hr : s.run base p with ⟨_ | _, p₁⟩
  · rfl
  · cases h.symm.trans (congrArg Prod.fst hr)

/-- Steps are taken in two goes as in one, unless the first breaks off. -/
theorem runAll_append (base : Option Spelling) (ss rest : List Script.Step) (p : Progress) :
    runAll base (ss ++ rest) p =
      match runAll base ss p with
      | (.ok (), p) => runAll base rest p
      | (.error e, p) => (.error e, p) := by
  induction ss generalizing p with
  | nil => rfl
  | cons s ss ih =>
    simp only [List.cons_append, runAll]
    rcases s.run base p with ⟨_ | _, p'⟩
    · rfl
    · exact ih p'

end Script.Step

/-- Steps, and what comes after them: a result, or a failure that no step is to blame for. -/
structure Script (α : Type) where
  steps : List Script.Step
  outcome : Except Failure α

namespace Script

variable {α β : Type}

def bind (s : Script α) (f : α → Script β) : Script β :=
  match s.outcome with
  | .ok a => ⟨s.steps ++ (f a).steps, (f a).outcome⟩
  | .error e => ⟨s.steps, .error e⟩

instance : Monad Script where
  pure a := ⟨[], .ok a⟩
  bind := bind

/-- The call that a script is of. -/
def play (base : Option Spelling) (s : Script α) : Staging α := fun p =>
  match Step.runAll base s.steps p with
  | (.ok (), p) => (s.outcome, p)
  | (.error e, p) => (.error e, p)

/-- A call comes to a result exactly if all its steps are taken, and the script has that result. -/
theorem play_eq_ok_iff {base : Option Spelling} {s : Script α} {p p' : Progress} {a : α} :
    s.play base p = (.ok a, p') ↔
      Step.runAll base s.steps p = (.ok (), p') ∧ s.outcome = .ok a := by
  unfold play
  rcases Step.runAll base s.steps p with ⟨_ | _, p₁⟩
  · exact ⟨fun h => (nomatch (Prod.mk.inj h).1), fun h => (nomatch (Prod.mk.inj h.1).1)⟩
  · constructor
    · intro h
      obtain ⟨ho, rfl⟩ := Prod.mk.inj h
      exact ⟨rfl, ho⟩
    · rintro ⟨h, ho⟩
      obtain rfl := (Prod.mk.inj h).2
      exact Prod.ext ho rfl

theorem play_pure (base : Option Spelling) (a : α) : (pure a : Script α).play base = pure a := rfl

/-- What a call goes on with is the progress that was left. -/
theorem staging_bind (x : Staging α) (f : α → Staging β) (p : Progress) :
    (x >>= f) p = match x p with
      | (.ok a, p) => f a p
      | (.error e, p) => (.error e, p) := by
  show (match x p with | (a, s) => ExceptT.bindCont f a s) = _
  rcases x p with ⟨_ | _, p'⟩ <;> rfl

/-- One script after the other is one call after the other. -/
theorem play_bind (base : Option Spelling) (s : Script α) (f : α → Script β) :
    (s >>= f).play base = s.play base >>= fun a => (f a).play base := by
  funext p
  rw [staging_bind]
  show (s.bind f).play base p = _
  unfold bind play
  cases s.outcome with
  | error e => rcases Step.runAll base s.steps p with ⟨_ | _, p'⟩ <;> rfl
  | ok a =>
    simp only [Step.runAll_append]
    rcases Step.runAll base s.steps p with ⟨_ | _, p'⟩ <;> rfl

/-! ## Scripts of the single operations -/

def telling (events : List Event) : Script Unit := ⟨[.tell events], .ok ()⟩

def entering (phase : Phase) : Script Unit := ⟨[.enter phase], .ok ()⟩

def ending (x : Except Failure α) : Script α := ⟨[], x⟩

/-- Writes in order, and their number. -/
def staging (ws : List (Path × Input)) : Script Nat :=
  ⟨ws.map fun w => .stage w.1 w.2, .ok ws.length⟩

/-- One script for each item, in order, and the sum of what they count. -/
def sum {ι : Type} (f : ι → Script Nat) : List ι → Script Nat
  | [] => pure 0
  | i :: rest => do
    let n ← f i
    return n + (← sum f rest)

theorem play_telling (base : Option Spelling) (events : List Event) :
    (telling events).play base = Staging.tell events := rfl

theorem play_entering (base : Option Spelling) (phase : Phase) :
    (entering phase).play base = Staging.enter phase := rfl

/-- A script without steps leaves everything as it was, and ends as it is told to. -/
theorem play_ending (base : Option Spelling) (x : Except Failure α) :
    (ending x).play base = Staging.lift x := by
  cases x <;> rfl

/-- What a write makes of the ledger is kept even if it fails. -/
theorem write_apply (path : Path) (v : Input) (p : Progress) :
    Staging.write path v p =
      ((p.ledger.write path v).2.2,
        { ledger := (p.ledger.write path v).1, log := p.log ++ (p.ledger.write path v).2.1 }) := by
  have hget : (get : Staging Progress) p = (.ok p, p) := rfl
  unfold Staging.write
  rw [staging_bind, hget]
  dsimp only
  rcases p.ledger.write path v with ⟨ledger, events, outcome⟩
  cases outcome <;> rfl

/-- A single step is the operation of the call that it is named after. -/
theorem play_stage (base : Option Spelling) (location : Path) (v : Input) :
    (⟨[.stage location v], .ok ()⟩ : Script Unit).play base =
      (Staging.stage base (.ofPath location) v >>= fun _ => pure ()) := by
  funext p
  have hlift : ∀ x : Except Failure Path, Staging.lift x p = (x, p) := by
    rintro (_ | _) <;> rfl
  unfold Staging.stage
  simp only [staging_bind, play, Step.runAll, hlift]
  cases hd : Path.destination base (.ofPath location) with
  | error e =>
    rw [Step.run_stage_error hd]
  | ok path =>
    rw [Step.run_stage_ok hd]
    simp only [write_apply]
    cases (p.ledger.write path v).2.2 <;> rfl

theorem staging_cons (location : Path) (v : Input) (ws : List (Path × Input)) :
    staging ((location, v) :: ws) =
      ((⟨[.stage location v], .ok ()⟩ : Script Unit) >>= fun _ =>
        staging ws >>= fun n => pure (n + 1)) := by
  show _ = bind _ _
  simp [staging, bind, Bind.bind, pure]

/-- Writes in order are the writes of the call, and so is their number. -/
theorem play_staging (base : Option Spelling) (ws : List (Path × Input)) :
    (staging ws).play base = Staging.stageAll base ws := by
  induction ws with
  | nil => rfl
  | cons w ws ih =>
    obtain ⟨location, v⟩ := w
    simp only [staging_cons, play_bind, play_stage, play_pure, ih, bind_assoc, pure_bind]
    rfl

/-- Only what the scripts of the listed items are makes the sum. -/
theorem sum_congr {ι : Type} {f g : ι → Script Nat} {is : List ι} (h : ∀ i ∈ is, f i = g i) :
    sum f is = sum g is := by
  induction is with
  | nil => rfl
  | cons i rest ih =>
    rw [sum, sum, h i List.mem_cons_self, ih fun j hj => h j (List.mem_cons_of_mem _ hj)]

/-- The first item is staged before all others, which count on from there. -/
theorem play_sum_cons {ι : Type} (base : Option Spelling) (f : ι → Script Nat) (i : ι)
    (rest : List ι) :
    (sum f (i :: rest)).play base = (f i).play base >>= fun n =>
      (sum f rest).play base >>= fun m => pure (n + m) := by
  simp only [sum, play_bind, play_pure]

end Script

end InputStaging
