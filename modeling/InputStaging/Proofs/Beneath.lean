import InputStaging.Proofs.Path.Beneath
import InputStaging.Proofs.Modes

/-!
# Calls beneath a directory

A call beneath a directory is the call at the root of the sandbox with every destination
relabelled: the ledgers, the logs and the failures of both runs correspond step by step. Only
a location that names the root of the sandbox tells them apart, since beneath the directory it
names that directory.
-/

namespace InputStaging

namespace Table

variable {κ κ' α : Type}

theorem ext_entries {t t' : Table κ α} (h : t.entries = t'.entries) : t = t' := by
  cases t
  cases t'
  cases h
  rfl

/-- The same values under other keys. -/
def mapKeys (f : κ → κ') (hf : Function.Injective f) (t : Table κ α) : Table κ' α where
  entries := t.entries.map fun e => (f e.1, e.2)
  nodup := by
    have hkeys : (t.entries.map fun e => (f e.1, e.2)).map Prod.fst =
        (t.entries.map Prod.fst).map f := by
      rw [List.map_map, List.map_map]
      rfl
    rw [hkeys]
    exact List.Pairwise.map f (fun _ _ hne he => hne (hf he)) t.nodup

variable {f : κ → κ'} (hf : Function.Injective f)

@[simp] theorem size_mapKeys (t : Table κ α) : (t.mapKeys f hf).size = t.size :=
  List.length_map _

variable [DecidableEq κ] [DecidableEq κ']

theorem get?_mapKeys (t : Table κ α) (k : κ) : (t.mapKeys f hf).get? (f k) = t.get? k := by
  show find (f k) (t.entries.map fun e => (f e.1, e.2)) = find k t.entries
  induction t.entries with
  | nil => rfl
  | cons e rest ih =>
    rw [List.map_cons, find, find, ih]
    by_cases hk : e.1 = k
    · rw [if_pos hk, if_pos (congrArg f hk)]
    · rw [if_neg hk, if_neg fun he => hk (hf he)]

theorem insert_mapKeys (t : Table κ α) (k : κ) (v : α) :
    (t.insert k v).mapKeys f hf = (t.mapKeys f hf).insert (f k) v := by
  apply ext_entries
  show (put k v t.entries).map _ = put (f k) v (t.entries.map _)
  induction t.entries with
  | nil => rfl
  | cons e rest ih =>
    rw [List.map_cons, put, put]
    by_cases hk : e.1 = k
    · rw [if_pos hk, if_pos (congrArg f hk), List.map_cons]
    · rw [if_neg hk, if_neg fun he => hk (hf he), List.map_cons, ih]

/-- Keys that keep their order keep their places. -/
theorem sorted_mapKeys {f : Path → Path} (hf : Function.Injective f) {t : Table Path α}
    (hle : ∀ p ∈ t.keys, ∀ q ∈ t.keys, (f p).le (f q) = p.le q) :
    (t.mapKeys f hf).sorted = t.sorted.map fun e => (f e.1, e.2) := by
  refine (List.map_mergeSort fun a ha b hb => ?_).symm
  exact (hle a.1 (List.mem_map_of_mem ha) b.1 (List.mem_map_of_mem hb)).symm

end Table

/-- What is reported of a destination is reported of where it lies beneath the directory. -/
def Failure.beneath (dir : Path) : Failure → Failure
  | .conflict path previous replacement => .conflict (dir / path) previous replacement
  | failure => failure

def Event.beneath (dir : Path) : Event → Event
  | .inputReplaced phase previousPhase previous replacement path =>
    .inputReplaced phase previousPhase previous replacement (dir / path)
  | event => event

theorem Failure.beneath_eq_self {failure : Failure} (h : Conflict.ofFailure? failure = none)
    (dir : Path) : failure.beneath dir = failure := by
  cases failure with
  | conflict path previous replacement => cases h
  | _ => rfl

theorem Event.map_beneath_eq_self {events : List Event} (h : Conflict.told events = [])
    (dir : Path) : events.map (Event.beneath dir) = events := by
  have hself : ∀ event, Conflict.ofEvent? event = none → event.beneath dir = event := by
    intro event he
    cases event with
    | inputReplaced phase previousPhase previous replacement path => cases he
    | _ => rfl
  rw [List.map_congr_left fun event he => hself event (Conflict.told_eq_nil_iff.mp h event he)]
  exact List.map_id' events

variable {dir : Path} (hdir : dir.isAbsolute = false)

namespace Ledger

variable {l : Ledger} {ws : List Write}

def beneath (l : Ledger) : Ledger :=
  { l with
    entries := l.entries.mapKeys (dir / ·) (Path.div_injective hdir)
    writers := l.writers.mapKeys (dir / ·) (Path.div_injective hdir)
    conflicts := l.conflicts.map (dir / ·) }

theorem put_beneath (l : Ledger) (p : Path) (v : Input) :
    (l.put p v).beneath hdir = (l.beneath hdir).put (dir / p) v := by
  simp only [beneath, put, Table.insert_mapKeys]

theorem rival?_beneath (l : Ledger) (p : Path) :
    (l.beneath hdir).rival? (dir / p) = l.rival? p := by
  have hwriter := Table.get?_mapKeys (Path.div_injective hdir) l.writers p
  unfold rival?
  rw [show (l.beneath hdir).writers.get? (dir / p) = l.writers.get? p from hwriter]
  rfl

/-- What a ledger has a writer of, it has an entry of. -/
theorem Reflects.entry_of_rival (h : l.Reflects ws) {p : Path} {writer : Phase}
    (hw : l.rival? p = some writer) : ∃ previous, l.entries.get? p = some previous := by
  cases ha : Write.last? p ws with
  | none => exact nomatch (h.rival?_eq_none ha).symm.trans hw
  | some a => exact ⟨a.value, by rw [h.entries, ha]; rfl⟩

theorem Reflects.write_beneath (h : l.Reflects ws) (p : Path) (v : Input) :
    (l.beneath hdir).write (dir / p) v =
      ((l.write p v).1.beneath hdir, (l.write p v).2.1.map (Event.beneath dir),
        (l.write p v).2.2.mapError (Failure.beneath dir)) := by
  unfold write
  rw [rival?_beneath]
  cases hw : l.rival? p with
  | none =>
    simp only [put_beneath]
    rfl
  | some writer =>
    obtain ⟨previous, hp⟩ := h.entry_of_rival hw
    have hp' : (l.beneath hdir).entries.get? (dir / p) = some previous :=
      (Table.get?_mapKeys (Path.div_injective hdir) l.entries p).trans hp
    simp only [hp, hp']
    by_cases hv : previous = v
    · simp only [hv, if_true, put_beneath]
      rfl
    · have hmode : (l.beneath hdir).mode = l.mode := rfl
      have hconflicts : (l.beneath hdir).conflicts ++ [dir / p] =
          (l.conflicts ++ [p]).map (dir / ·) := by simp [beneath]
      simp only [hv, if_false, hmode, hconflicts]
      by_cases herr : l.mode = .error
      · simp only [herr, if_true]
        rfl
      · simp only [herr, if_false]
        refine Prod.ext ?_ rfl
        exact (put_beneath hdir { l with conflicts := l.conflicts ++ [p] } p v).symm

end Ledger

/-- How far the call would have come beneath the directory. -/
def Progress.beneath (p : Progress) : Progress where
  ledger := p.ledger.beneath hdir
  log := p.log.map (Event.beneath dir)

namespace Script.Step

variable {p : Progress} {ws : List Write} {ss : List Script.Step}

/-- No location that names the root of the sandbox is to blame. -/
def Placed (outcome : Except Failure Unit) : Prop :=
  ∀ text, outcome ≠ .error (.location text .isSandboxRoot)

theorem run_beneath (hbase : Path.baseDirectory (some (.ofPath dir)) = .ok dir)
    {s : Script.Step} (hs : ∀ events, s = tell events → Conflict.told events = [])
    (h : p.ledger.Reflects ws) (hplaced : Placed (s.run (some (.ofPath .here)) p).1) :
    s.run (some (.ofPath dir)) (p.beneath hdir) =
      ((s.run (some (.ofPath .here)) p).1.mapError (Failure.beneath dir),
        (s.run (some (.ofPath .here)) p).2.beneath hdir) := by
  cases s with
  | tell events =>
    refine Prod.ext rfl ?_
    have hlog : (p.log ++ events).map (Event.beneath dir) =
        p.log.map (Event.beneath dir) ++ events := by
      rw [List.map_append, Event.map_beneath_eq_self (hs events rfl)]
    exact congrArg (Progress.mk (p.ledger.beneath hdir)) hlog.symm
  | enter phase => rfl
  | stage location v =>
    cases hd : Path.destination (some (.ofPath .here)) (.ofPath location) with
    | error failure =>
      rw [run_stage_error hd] at hplaced ⊢
      have hne : ∀ text, failure ≠ .location text .isSandboxRoot :=
        fun text he => hplaced text (by rw [he])
      rw [run_stage_error (Path.destination_div_of_error hd hne _)]
      obtain ⟨text, fault, rfl⟩ := Path.destination_eq_error hd
      rfl
    | ok d =>
      rw [run_stage_ok hd, run_stage_ok (Path.destination_div_of_ok hbase hd)]
      have hw := h.write_beneath hdir d v
      show (((p.ledger.beneath hdir).write (dir / d) v).2.2, _) = _
      simp [Progress.beneath, hw]

theorem runAll_beneath (hbase : Path.baseDirectory (some (.ofPath dir)) = .ok dir)
    (hss : ∀ events, tell events ∈ ss → Conflict.told events = [])
    (h : p.ledger.Reflects ws) (hplaced : Placed (runAll (some (.ofPath .here)) ss p).1) :
    runAll (some (.ofPath dir)) ss (p.beneath hdir) =
      ((runAll (some (.ofPath .here)) ss p).1.mapError (Failure.beneath dir),
        (runAll (some (.ofPath .here)) ss p).2.beneath hdir) := by
  induction ss generalizing p ws with
  | nil => rfl
  | cons s rest ih =>
    have hs : ∀ events, s = tell events → Conflict.told events = [] :=
      fun events he => hss events (by simp [he])
    have hstep := run_beneath hdir hbase hs h
    rcases hr : s.run (some (.ofPath .here)) p with ⟨failure | _, p₁⟩
    · have hrun : runAll (some (.ofPath .here)) (s :: rest) p = (.error failure, p₁) := by
        rw [runAll, hr]
      rw [hrun] at hplaced ⊢
      rw [hr] at hstep
      rw [runAll, hstep hplaced]
      rfl
    · have hrun : runAll (some (.ofPath .here)) (s :: rest) p =
          runAll (some (.ofPath .here)) rest p₁ := by
        rw [runAll, hr]
      rw [hrun] at hplaced ⊢
      rw [hr] at hstep
      have hpass := passed_step (Path.baseDirectory_clean Path.baseDirectory_here) hr h
      have hok : Placed (.ok ()) := by
        intro text he
        cases he
      rw [runAll, hstep hok]
      exact ih (fun events he => hss events (List.mem_cons_of_mem _ he))
        (by simpa [history] using hpass.reflects) hplaced

/-- What is staged at the root of the sandbox is in the same order beneath the directory. -/
theorem Passed.sorted_beneath {p' : Progress} (h : Passed .here [] p ss p') :
    (p'.ledger.beneath hdir).entries.sorted =
      p'.ledger.entries.sorted.map fun entry => (dir / entry.1, entry.2) := by
  have hkeys : ∀ k ∈ p'.ledger.entries.keys, k.isAbsolute = false := by
    intro k hk
    obtain ⟨v, hv⟩ := Option.isSome_iff_exists.mp (Table.contains_iff.mpr hk)
    exact (h.contained (Path.baseDirectory_clean Path.baseDirectory_here) hv).1.relative
  exact Table.sorted_mapKeys (Path.div_injective hdir) fun k hk k' hk' =>
    Path.le_div hdir (hkeys k hk) (hkeys k' hk')

end Script.Step

namespace Engine

/-- A call beneath a directory, beside the same call at the root of the sandbox. -/
structure Follows (dir : Path) (x : Expander) (metadata : Metadata)
    (atRoot below : Except Failure (List (Path × Input)) × List Event) : Prop where
  /-- The same destinations in the same order, each beneath the directory. -/
  returns : ∀ result, atRoot.1 = .ok result →
    below.1 = .ok (result.map fun entry => (dir / entry.1, entry.2))
  /-- The same failure, a conflict at the corresponding destination. If a collaborator fails
  with a conflict, it is the collaborator's own, and passed on as it is. -/
  fails : ∀ failure, atRoot.1 = .error failure → below.1 = .error (failure.beneath dir) ∨
    below.1 = .error failure ∧ failure.Foreign x metadata
  tells : below.2 = atRoot.2.map (Event.beneath dir)

theorem follows_conclude {x : Expander} {metadata : Metadata} {ran : Except Failure Unit × Progress}
    {counted : Except Failure (Nat × Nat × Nat)}
    (hsorted : ran.1 = .ok () → (ran.2.ledger.beneath hdir).entries.sorted =
      ran.2.ledger.entries.sorted.map fun entry => (dir / entry.1, entry.2))
    (hfails : ∀ failure, counted = .error failure →
      Conflict.ofFailure? failure = none ∨ failure.Foreign x metadata) :
    Follows dir x metadata (conclude counted ran)
      (conclude counted (ran.1.mapError (Failure.beneath dir), ran.2.beneath hdir)) := by
  obtain ⟨failure | _, p⟩ := ran
  · refine ⟨fun result h => ?_, fun failure' h => .inl ?_, rfl⟩
    · cases h
    · cases h
      rfl
  · cases counted with
    | error failure =>
      refine ⟨fun result h => ?_, fun failure' h => ?_, rfl⟩
      · cases h
      · cases h
        rcases hfails failure rfl with hnone | hown
        · exact .inl (congrArg Except.error (Failure.beneath_eq_self hnone dir).symm)
        · exact .inr ⟨rfl, hown⟩
    | ok counts =>
      refine ⟨fun result h => ?_, fun failure h => ?_, ?_⟩
      · cases h
        exact congrArg Except.ok (hsorted rfl)
      · cases h
      · have hsize : (p.ledger.beneath hdir).entries.size = p.ledger.entries.size :=
          Table.size_mapKeys (Path.div_injective hdir) _
        have hconflicts : (p.ledger.beneath hdir).conflicts.length = p.ledger.conflicts.length :=
          List.length_map _
        show _ ++ [Event.mapped _ _ _ (p.ledger.beneath hdir).entries.size
          (p.ledger.beneath hdir).conflicts.length] = List.map _ (_ ++ _)
        rw [hsize, hconflicts, List.map_append]
        rfl

/-- Unless the call at the root of the sandbox fails for a location that names that root, the
call beneath a directory that normalizing leaves as it is follows it. -/
theorem map_beneath (e : Engine) (action : Action) (x : Expander) (empty base : Option Spelling)
    (metadata : Metadata) (dir : Path) (hempty : Path.baseDirectory empty = .ok .here)
    (hbase : Path.baseDirectory base = .ok dir)
    (hdir : Path.baseDirectory (some (.ofPath dir)) = .ok dir)
    (hplaced : ∀ text,
      (e.map action x empty metadata).1 ≠ .error (.location text .isSandboxRoot)) :
    Follows dir x metadata (e.map action x empty metadata) (e.map action x base metadata) := by
  have hrel := (Path.baseDirectory_clean hbase).relative
  have hhere := Path.baseDirectory_clean Path.baseDirectory_here
  have hneutral := e.script_neutral x metadata action
  rw [map_eq_conclude hempty] at hplaced ⊢
  rw [map_eq_conclude hbase]
  have hsteps : Script.Step.Placed (Script.Step.runAll (some (.ofPath .here))
      (e.script action x metadata).steps e.start).1 := by
    intro text htext
    refine hplaced text ?_
    rw [show Script.Step.runAll _ _ _ = (_, _) from Prod.ext htext rfl]
    rfl
  have hstart : e.start.beneath hrel = e.start := rfl
  have hrun := Script.Step.runAll_beneath hrel hdir hneutral.tells
    (Ledger.reflects_nil e.conflictMode) hsteps
  rw [← hstart, hrun]
  refine follows_conclude hrel (fun hok => ?_) hneutral.fails
  have hpass := Script.Step.passed_of_runAll hhere (Prod.ext hok rfl) (Ledger.reflects_nil _)
  exact hpass.sorted_beneath hrel

theorem windings_beneath_out :
    ∃ result, (lenient.map windings expander none fun _ => .ok .file).1 = .ok result ∧
      result.map (·.1.text) = ["b", "m", "r/f/k", "r/m", "z/n", "z/o"] ∧
      (lenient.map windings expander (some (.ofString "out")) fun _ => .ok .file).1 =
        .ok (result.map fun entry => (Path.ofString "out" / entry.1, entry.2)) ∧
      ((lenient.inMode .error).map contested expander (some (.ofString "out"))
        fun _ => .ok .file).1 =
        .error (.conflict (.ofString "out/a/b") (.artifact { execPath := .ofString "a/b" })
          .empty) := by
  have hb : Path.baseDirectory (some (.ofString "out")) = .ok (.ofString "out") := by rfl
  have hb' : Path.baseDirectory (some (.ofPath (.ofString "out"))) = .ok (.ofString "out") := by rfl
  have hok : (lenient.map windings expander none fun _ => .ok .file).1.toOption.isSome = true := by
    decide
  have hconflict : ((lenient.inMode .error).map contested expander none fun _ => .ok .file).1 =
      .error (.conflict (.ofString "a/b") (.artifact { execPath := .ofString "a/b" }) .empty) := by
    rfl
  cases h : (lenient.map windings expander none fun _ => .ok .file).1 with
  | error failure => simp [h, Except.toOption] at hok
  | ok result =>
    have hfollows := map_beneath lenient windings expander none (some (.ofString "out"))
      (fun _ => .ok .file) (.ofString "out") rfl hb hb' fun text he => by cases h.symm.trans he
    have hfollows' := map_beneath (lenient.inMode .error) contested expander none
      (some (.ofString "out")) (fun _ => .ok .file) (.ofString "out") rfl hb hb'
      fun text he => by cases hconflict.symm.trans he
    refine ⟨result, rfl, ?_, hfollows.returns result h, ?_⟩
    · rw [result_of_map h, Table.sorted_of_pairwise (by decide)]
      decide
    · rcases hfollows'.fails _ hconflict with hbelow | ⟨-, hown⟩
      · exact hbelow
      · rcases hown with hown | hown | hown <;> cases hown

end Engine

end InputStaging
