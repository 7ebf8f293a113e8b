import InputStaging.Proofs.History
import Mathlib.Data.List.Chain

/-!
# Attempts on a ledger

A caller enters phases and writes inputs, in any order and as often as it likes, and goes
on after a write that failed. Entries and writers are two tables, and one is looked up on
the strength of the other; that they never come apart is what keeps a write from failing
for any other reason than a conflict.
-/

namespace InputStaging

namespace Ledger

/-- What a caller may do with a ledger. -/
inductive Attempt where
  | enter (phase : Phase)
  | write (p : Path) (v : Input)

namespace Attempt

def perform (l : Ledger) : Attempt → Ledger × List Event × Except Failure Unit
  | enter phase => ({ l with phase }, [], .ok ())
  | write p v => l.write p v

/-- The write that is carried out, if it is one and does not fail. -/
def written (l : Ledger) : Attempt → List Write
  | enter _ => []
  | write p v =>
    match (l.write p v).2.2 with
    | .ok _ => [⟨l.phase, p, v⟩]
    | .error _ => []

end Attempt

/-- The ledger after all the attempts, the failed ones passed over. -/
def after (l : Ledger) (attempts : List Attempt) : Ledger :=
  attempts.foldl (fun l a => (a.perform l).1) l

/-- What each attempt tells and how it ends. -/
def answers (l : Ledger) : List Attempt → List (List Event × Except Failure Unit)
  | [] => []
  | a :: rest => (a.perform l).2 :: answers (a.perform l).1 rest

/-- The writes among the attempts that are carried out, in order. -/
def carriedOut (l : Ledger) : List Attempt → List Write
  | [] => []
  | a :: rest => a.written l ++ carriedOut (a.perform l).1 rest

variable {l l' : Ledger} {ws : List Write} {p : Path} {v : Input}

/-! ## The single write -/

/-- A write clashes with the last one at its path, and clashes are refused. -/
def Refuses (l : Ledger) (ws : List Write) (p : Path) (v : Input) (a : Write) : Prop :=
  l.mode = .error ∧ Write.last? p ws = some a ∧ a.Clashes ⟨l.phase, p, v⟩

/-- A write that is refused is put on record, and its failure names the last input at the path. -/
theorem Reflects.write_refused (h : l.Reflects ws) {a : Write} (hr : l.Refuses ws p v a) :
    l.write p v =
      ({ l with conflicts := l.conflicts ++ [p] }, [], .error (.conflict p a.value v)) := by
  obtain ⟨hm, ha, hc⟩ := hr
  have hne : l.mode ≠ .overwrite := by simp [hm]
  rw [h.write_clashing hne ha hc]
  simp [hm]

/-- Every other write is carried out; all it may do beyond that is to record and tell a conflict. -/
theorem Reflects.write_accepted (h : l.Reflects ws) (hr : ∀ a, ¬ l.Refuses ws p v a) :
    ∃ conflicts events,
      l.write p v = ({ l.put p v with conflicts := conflicts }, events, .ok ()) := by
  by_cases hq : l.mode = .overwrite ∨ ∀ a ∈ Write.last? p ws, ¬ a.Clashes ⟨l.phase, p, v⟩
  · exact ⟨l.conflicts, [], h.write_eq_put hq⟩
  · simp only [not_or, Classical.not_forall, Classical.not_not, exists_prop] at hq
    obtain ⟨hm, a, ha, hc⟩ := hq
    have hne : l.mode ≠ .error := fun herr => hr a ⟨herr, ha, hc⟩
    rw [h.write_clashing hm ha hc]
    simp only [if_neg hne]
    exact ⟨l.conflicts ++ [p], _, rfl⟩

/-- Conflicts in mode `error` are the only failures, and each names both inputs. -/
theorem Reflects.write_eq_error_iff (h : l.Reflects ws) {f : Failure} :
    (l.write p v).2.2 = .error f ↔
      ∃ a, l.Refuses ws p v a ∧ f = .conflict p a.value v := by
  constructor
  · intro hf
    by_cases hr : ∃ a, l.Refuses ws p v a
    · obtain ⟨a, hr⟩ := hr
      rw [h.write_refused hr] at hf
      exact ⟨a, hr, (Except.error.inj hf).symm⟩
    · obtain ⟨conflicts, events, hw⟩ := h.write_accepted (not_exists.mp hr)
      rw [hw] at hf
      cases hf
  · rintro ⟨a, hr, rfl⟩
    rw [h.write_refused hr]

/-! ## Runs of attempts -/

/-- Of two writes at one path, one right after the other, the later did not replace another
input of another phase. -/
def Unchallenged (ws : List Write) : Prop :=
  ∀ d, (ws.filter (·.path = d)).IsChain fun a b => a.phase ≠ b.phase → a.value = b.value

/-- A write that does not clash with the last one at its path adds no clash. -/
theorem Unchallenged.snoc (h : Unchallenged ws) {w : Write}
    (hw : ∀ a, Write.last? w.path ws = some a → ¬ a.Clashes w) : Unchallenged (ws ++ [w]) := by
  intro d
  rw [List.filter_append]
  by_cases hd : w.path = d
  · subst hd
    refine List.isChain_append.mpr ⟨h w.path, by simp, fun a ha b hb hp => ?_⟩
    obtain rfl : w = b := by simpa using hb
    exact Decidable.byContradiction fun hv => hw a ha ⟨hp, hv⟩
  · simpa [hd] using h d

/-- The ledger holds what a history left, and let no clash pass that it should refuse. -/
structure Keeps (l : Ledger) (ws : List Write) : Prop where
  reflects : l.Reflects ws
  unchallenged : l.mode = .error → Unchallenged ws

theorem keeps_nil (mode : ConflictMode) : Keeps { mode } [] :=
  ⟨reflects_nil mode, fun _ _ => by simp⟩

/-- What one attempt leaves as it was. -/
theorem Keeps.perform (h : l.Keeps ws) (a : Attempt) :
    (a.perform l).1.Keeps (ws ++ a.written l) ∧ (a.perform l).1.mode = l.mode := by
  cases a with
  | enter phase =>
    have hws : ws ++ Attempt.written l (.enter phase) = ws := List.append_nil ws
    rw [hws]
    exact ⟨⟨⟨h.reflects.entries, h.reflects.writers⟩, h.unchallenged⟩, rfl⟩
  | write p v =>
    show (l.write p v).1.Keeps _ ∧ (l.write p v).1.mode = l.mode
    by_cases hr : ∃ a, l.Refuses ws p v a
    · obtain ⟨a, hr⟩ := hr
      have hw := h.reflects.write_refused hr
      have hws : ws ++ Attempt.written l (.write p v) = ws := by simp [Attempt.written, hw]
      rw [hws, hw]
      exact ⟨⟨⟨h.reflects.entries, h.reflects.writers⟩, h.unchallenged⟩, rfl⟩
    · have hr := not_exists.mp hr
      obtain ⟨conflicts, events, hw⟩ := h.reflects.write_accepted hr
      have hws : ws ++ Attempt.written l (.write p v) = ws ++ [⟨l.phase, p, v⟩] := by
        simp [Attempt.written, hw]
      have hput := h.reflects.put p v
      rw [hws, hw]
      refine ⟨⟨⟨hput.entries, hput.writers⟩, fun hm => ?_⟩, rfl⟩
      exact (h.unchallenged hm).snoc fun a ha hc => hr a ⟨hm, ha, hc⟩

/-- By induction on the attempts: what one of them keeps, all of them keep. -/
theorem Keeps.after (h : l.Keeps ws) (attempts : List Attempt) :
    (l.after attempts).Keeps (ws ++ l.carriedOut attempts) ∧
      (l.after attempts).mode = l.mode := by
  induction attempts generalizing l ws with
  | nil => simpa [Ledger.after, carriedOut] using h
  | cons a rest ih =>
    obtain ⟨hk, hm⟩ := h.perform a
    obtain ⟨hk', hm'⟩ := ih hk
    rw [List.append_assoc] at hk'
    exact ⟨hk', hm'.trans hm⟩

/-! ## What a conflict leaves behind -/

/-- The ledger but for the conflicts on record, which no write looks at. -/
def standing (l : Ledger) : Ledger := { l with conflicts := [] }

theorem standing_eq_iff :
    l.standing = l'.standing ↔
      l.mode = l'.mode ∧ l.phase = l'.phase ∧ l.entries = l'.entries ∧ l.writers = l'.writers := by
  simp [standing]

/-- A write does not look at the conflicts on record. -/
theorem write_standing (l : Ledger) (p : Path) (v : Input) :
    (l.write p v).1.standing = (l.standing.write p v).1.standing ∧
      (l.write p v).2 = (l.standing.write p v).2 := by
  have hr : l.standing.rival? p = l.rival? p := rfl
  have he : l.standing.entries = l.entries := rfl
  unfold write
  rw [hr, he]
  cases l.rival? p with
  | none => exact ⟨rfl, rfl⟩
  | some writer =>
    cases l.entries.get? p with
    | none => exact ⟨rfl, rfl⟩
    | some previous =>
      by_cases hv : previous = v
      · simp [hv, standing, put]
      · by_cases herr : l.mode = .error <;> simp [hv, herr, standing, put]

/-- Ledgers that differ in the conflicts on record only are told apart by no attempt. -/
theorem perform_congr (h : l.standing = l'.standing) (a : Attempt) :
    (a.perform l).1.standing = (a.perform l').1.standing ∧
      (a.perform l).2 = (a.perform l').2 := by
  cases a with
  | enter phase =>
    obtain ⟨hm, -, he, hw⟩ := standing_eq_iff.mp h
    exact ⟨standing_eq_iff.mpr ⟨hm, rfl, he, hw⟩, rfl⟩
  | write p v =>
    obtain ⟨h₁, h₂⟩ := write_standing l p v
    obtain ⟨h₁', h₂'⟩ := write_standing l' p v
    rw [← h] at h₁' h₂'
    exact ⟨h₁.trans h₁'.symm, h₂.trans h₂'.symm⟩

/-- Nor are they by any number of attempts. -/
theorem run_congr (h : l.standing = l'.standing) (attempts : List Attempt) :
    (l.after attempts).standing = (l'.after attempts).standing ∧
      l.answers attempts = l'.answers attempts := by
  induction attempts generalizing l l' with
  | nil => exact ⟨h, rfl⟩
  | cons a rest ih =>
    obtain ⟨hs, ha⟩ := perform_congr h a
    obtain ⟨hs', ha'⟩ := ih hs
    exact ⟨hs', by rw [answers, answers, ha, ha']⟩

/-! ## Any run -/

/-- What attempts on a new ledger have come to, and what a further write may come to. -/
structure Accountable (mode : ConflictMode) (l : Ledger) (ws : List Write) : Prop where
  keys : ∀ d, d ∈ l.entries.keys ↔ d ∈ l.writers.keys
  /-- Value and phase at every path are those of the last write carried out there. -/
  reflects : l.Reflects ws
  /-- A write fails only in mode `error`, and only because it clashes with the last one. -/
  refusals : ∀ p v f, (l.write p v).2.2 = .error f ↔
    mode = .error ∧ ∃ a, Write.last? p ws = some a ∧ a.Clashes ⟨l.phase, p, v⟩ ∧
      f = .conflict p a.value v
  /-- A write that fails is put on record as a conflict and leaves all else as it is. -/
  unharmed : ∀ p v f, (l.write p v).2.2 = .error f →
    (l.write p v).1 = { l with conflicts := l.conflicts ++ [p] }
  /-- All later attempts are answered as if a failed write had not been attempted. -/
  forgotten : ∀ p v f more, (l.write p v).2.2 = .error f →
    (l.write p v).1.answers more = l.answers more ∧
      ((l.write p v).1.after more).standing = (l.after more).standing
  unchallenged : mode = .error → Unchallenged ws

/-- Whoever wrote an entry is known, and whoever is known wrote one. -/
theorem Reflects.mem_keys_iff (h : l.Reflects ws) (d : Path) :
    d ∈ l.entries.keys ↔ d ∈ l.writers.keys := by
  rw [← Table.contains_iff, ← Table.contains_iff, Table.contains, Table.contains, h.entries,
    h.writers, Option.isSome_map, Option.isSome_map]

/-- All that a failed write leaves behind is that it is on record. -/
theorem Reflects.write_of_error (h : l.Reflects ws) {f : Failure}
    (hf : (l.write p v).2.2 = .error f) :
    (l.write p v).1 = { l with conflicts := l.conflicts ++ [p] } := by
  obtain ⟨a, hr, -⟩ := h.write_eq_error_iff.mp hf
  rw [h.write_refused hr]

theorem accountable (mode : ConflictMode) (attempts : List Attempt) :
    Accountable mode (after { mode } attempts) (carriedOut { mode } attempts) := by
  obtain ⟨⟨hr, hu⟩, hm⟩ := (keeps_nil mode).after attempts
  rw [List.nil_append] at hr hu
  refine ⟨hr.mem_keys_iff, hr, fun p v f => ?_, fun p v f hf => hr.write_of_error hf,
    fun p v f more hf => ?_, fun h => hu (hm.trans h)⟩
  · rw [hr.write_eq_error_iff]
    simp only [Refuses, hm, and_assoc, exists_and_left]
  · refine And.symm (run_congr ?_ more)
    rw [hr.write_of_error hf]
    rfl

/-- A refused write, a phase come back to, and a write that the refused one would have
stopped, had it been carried out. -/
example :
    let run := answers { mode := .error }
      [.write (.ofString "d") (.location (.ofString "/s")), .enter .runfiles,
       .write (.ofString "d") .empty, .enter .inputs,
       .write (.ofString "d") (.location (.ofString "/t"))]
    run = [([], .ok ()), ([], .ok ()),
      ([], .error (.conflict (.ofString "d") (.location (.ofString "/s")) .empty)),
      ([], .ok ()), ([], .ok ())] := by
  decide

end Ledger

end InputStaging
