import InputStaging.Proofs.Conflicts
import InputStaging.Proofs.Containment

/-!
# The conflict modes

Three calls that differ in their conflict mode alone stay in step. Telling of conflicts
changes nothing but the log. Refusing them changes nothing either, up to the first one:
there the call fails with just the conflict that it would have told of.
-/

namespace InputStaging

namespace Ledger

/-- The same entries, in a ledger that minds no conflict and knows of none. -/
def silenced (l : Ledger) : Ledger := { l with mode := .overwrite, conflicts := [] }

def refusing (l : Ledger) : Ledger := { l with mode := .error }

variable {l : Ledger} {ws : List Write}

/-- Whether conflicts are refused says nothing about what is in the ledger. -/
theorem Reflects.refusing (h : l.Reflects ws) : l.refusing.Reflects ws :=
  ⟨h.entries, h.writers⟩

/-- A ledger that tells of conflicts carries every write out, and tells of at most one. -/
theorem Reflects.write_of_warn (h : l.Reflects ws) (hm : l.mode = .warn) (p : Path) (v : Input) :
    (l.write p v = (l.put p v, [], .ok ()) ∧
      l.refusing.write p v = (l.refusing.put p v, [], .ok ())) ∨
    ∃ phase previous, l.write p v =
        ({ l.put p v with conflicts := l.conflicts ++ [p] },
          [.inputReplaced l.phase.name phase previous v p], .ok ()) ∧
      (l.refusing.write p v).2.2 = .error (.conflict p previous v) := by
  by_cases hc : ∀ a ∈ Write.last? p ws, ¬ a.Clashes ⟨l.phase, p, v⟩
  · exact .inl ⟨h.write_eq_put (.inr hc), h.refusing.write_eq_put (.inr hc)⟩
  · simp only [Classical.not_forall, Classical.not_not, exists_prop] at hc
    obtain ⟨a, ha, hclash⟩ := hc
    refine .inr ⟨a.phase.name, a.value, ?_, ?_⟩
    · have hne : l.mode ≠ .error := by simp [hm]
      rw [h.write_clashing (by simp [hm]) ha hclash]
      simp only [hne, if_false]
      rfl
    · rw [h.refusing.write_clashing (by simp [Ledger.refusing]) ha hclash]
      simp [Ledger.refusing]

end Ledger

namespace Progress

/-- How far the call would have come had it minded no conflict. -/
def silenced (p : Progress) : Progress where
  ledger := p.ledger.silenced
  log := p.log.filter fun ev => (Conflict.ofEvent? ev).isNone

def refusing (p : Progress) : Progress := { p with ledger := p.ledger.refusing }

theorem silenced_log_append (p : Progress) {events : List Event}
    (h : Conflict.told events = []) :
    (p.log ++ events).filter (fun ev => (Conflict.ofEvent? ev).isNone) =
      p.silenced.log ++ events := by
  rw [List.filter_append]
  congr 1
  exact List.filter_eq_self.mpr fun ev hev => by simp [Conflict.told_eq_nil_iff.mp h ev hev]

end Progress

namespace Script.Step

variable {dir : Path} {p : Progress} {ws : List Write} {ss : List Script.Step}

/-! ## Telling of conflicts and silence -/

/-- A step does the same in silence, and tells all but the conflicts. -/
theorem run_silenced {s : Script.Step} (hs : ∀ events, s = tell events → Conflict.told events = [])
    (hm : p.ledger.mode = .warn) (h : p.ledger.Reflects ws) (base : Option Spelling) :
    s.run base p.silenced = ((s.run base p).1, (s.run base p).2.silenced) := by
  cases s with
  | tell events =>
    refine Prod.ext rfl ?_
    show ({ p.silenced with log := p.silenced.log ++ events } : Progress) = _
    rw [← p.silenced_log_append (hs events rfl)]
    rfl
  | enter phase => rfl
  | stage location v =>
    cases hd : Path.destination base (.ofPath location) with
    | error e => rw [run_stage_error hd, run_stage_error hd]
    | ok d =>
      rw [run_stage_ok hd, run_stage_ok hd]
      have hsilent : p.silenced.ledger.write d v = (p.ledger.silenced.put d v, [], .ok ()) :=
        Ledger.write_of_overwrite rfl d v
      rw [hsilent]
      rcases h.write_of_warn hm d v with ⟨hw, -⟩ | ⟨phase, previous, hw, -⟩
      · rw [hw]
        simp [Progress.silenced, Ledger.silenced, Ledger.put]
      · rw [hw]
        simp [Progress.silenced, Ledger.silenced, Ledger.put, Conflict.ofEvent?]

/-- By induction on the steps: so do all of them. -/
theorem runAll_silenced (hdir : dir.Clean)
    (hss : ∀ events, tell events ∈ ss → Conflict.told events = [])
    (hm : p.ledger.mode = .warn) (h : p.ledger.Reflects ws) :
    runAll (some (.ofPath dir)) ss p.silenced =
      ((runAll (some (.ofPath dir)) ss p).1, (runAll (some (.ofPath dir)) ss p).2.silenced) := by
  induction ss generalizing p ws with
  | nil => rfl
  | cons s rest ih =>
    have hs : ∀ events, s = tell events → Conflict.told events = [] :=
      fun events he => hss events (by simp [he])
    simp only [runAll, run_silenced hs hm h]
    rcases hr : s.run (some (.ofPath dir)) p with ⟨_ | _, p₁⟩
    · rfl
    · have hpass := passed_step hdir hr h
      exact ih (fun events he => hss events (List.mem_cons_of_mem _ he))
        (hpass.mode.trans hm) (by simpa [history] using hpass.reflects)

/-! ## Telling of conflicts and refusing them -/

/-- A run that tells of conflicts, beside the same run that refuses them. -/
structure Refused (p : Progress) (telling refusing : Except Failure Unit × Progress)
    (new : List Conflict) : Prop where
  told : Conflict.told telling.2.log = Conflict.told p.log ++ new
  conflicts : telling.2.ledger.conflicts = p.ledger.conflicts ++ new.map (·.path)
  unhindered : new = [] → refusing = (telling.1, telling.2.refusing)
  stopped : ∀ c rest, new = c :: rest → refusing.1 = .error c.failure

/-- A step that tells of a conflict is the one that fails where conflicts are refused. -/
theorem refused_step {s : Script.Step} (hs : ∀ events, s = tell events → Conflict.told events = [])
    (hm : p.ledger.mode = .warn) (h : p.ledger.Reflects ws) (base : Option Spelling) :
    ∃ new, Refused p (s.run base p) (s.run base p.refusing) new := by
  cases s with
  | tell events =>
    refine ⟨[], ?_, by simp [run], fun _ => rfl, by simp⟩
    show Conflict.told (p.log ++ events) = _
    rw [Conflict.told_append, hs events rfl]
  | enter phase => exact ⟨[], by simp [run], by simp [run], fun _ => rfl, by simp⟩
  | stage location v =>
    cases hd : Path.destination base (.ofPath location) with
    | error e =>
      rw [run_stage_error hd, run_stage_error hd]
      exact ⟨[], by simp, by simp, fun _ => rfl, by simp⟩
    | ok d =>
      rw [run_stage_ok hd, run_stage_ok hd]
      rcases h.write_of_warn hm d v with ⟨hw, hw'⟩ | ⟨phase, previous, hw, hw'⟩
      · refine ⟨[], ?_, ?_, fun _ => ?_, by simp⟩
        · rw [hw]
          simp
        · rw [hw]
          simp [Ledger.put]
        · rw [hw, show p.refusing.ledger.write d v = _ from hw']
          rfl
      · refine ⟨[⟨d, previous, v⟩], ?_, ?_, by simp, ?_⟩
        · rw [hw, Conflict.told_append]
          rfl
        · rw [hw]
          rfl
        · rintro c rest hc
          obtain ⟨rfl, -⟩ := List.cons.inj hc
          exact hw'

/-- Steps are taken alike up to the first conflict, and there the refusing run ends. -/
theorem refused_runAll (hdir : dir.Clean)
    (hss : ∀ events, tell events ∈ ss → Conflict.told events = [])
    (hm : p.ledger.mode = .warn) (h : p.ledger.Reflects ws) :
    ∃ new, Refused p (runAll (some (.ofPath dir)) ss p)
      (runAll (some (.ofPath dir)) ss p.refusing) new := by
  induction ss generalizing p ws with
  | nil => exact ⟨[], by simp [runAll], by simp [runAll], fun _ => rfl, by simp⟩
  | cons s rest ih =>
    have hs : ∀ events, s = tell events → Conflict.told events = [] :=
      fun events he => hss events (by simp [he])
    obtain ⟨new, hnew⟩ := refused_step hs hm h (some (.ofPath dir))
    have hstopped : ∀ c later, new = c :: later →
        (runAll (some (.ofPath dir)) (s :: rest) p.refusing).1 = .error c.failure := by
      intro c later hc
      rw [runAll_of_step_error (hnew.stopped c later hc)]
      exact hnew.stopped c later hc
    rcases hr : s.run (some (.ofPath dir)) p with ⟨failure | _, p₁⟩
    · have hrun := runAll_of_step_error (congrArg Prod.fst hr) rest
      rw [hrun]
      refine ⟨new, hnew.told, hnew.conflicts, fun hnil => ?_, hstopped⟩
      have hstep := hnew.unhindered hnil
      rw [runAll_of_step_error (by rw [hstep, hr]), hstep]
    · have hpass := passed_step hdir hr h
      obtain ⟨more, hmore⟩ := ih (fun events he => hss events (List.mem_cons_of_mem _ he))
        (hpass.mode.trans hm) (by simpa [history] using hpass.reflects)
      rw [hr] at hnew
      rw [runAll_of_step_ok hr]
      refine ⟨new ++ more, ?_, ?_, ?_, ?_⟩
      · rw [hmore.told, hnew.told, List.append_assoc]
      · rw [hmore.conflicts, hnew.conflicts, List.map_append, List.append_assoc]
      · intro hnil
        obtain ⟨hnil, hnil'⟩ := List.append_eq_nil_iff.mp hnil
        rw [runAll_of_step_ok (hnew.unhindered hnil)]
        exact hmore.unhindered hnil'
      · -- The first conflict is this step's, if it has met one, and else a later step's.
        intro c later hc
        cases new with
        | nil =>
          rw [runAll_of_step_ok (hnew.unhindered rfl)]
          exact hmore.stopped c later hc
        | cons c' later' =>
          obtain ⟨rfl, -⟩ := List.cons.inj hc
          exact hstopped c' later' rfl

end Script.Step

namespace Engine

def inMode (e : Engine) (mode : ConflictMode) : Engine := { e with conflictMode := mode }

/-- Telling of conflicts, a call returns what it returns in silence. Refusing them, it does
so too if there is none to be told of, and else it fails with the first one told of. -/
theorem modes_in_step (e : Engine) (action : Action) (x : Expander) (base : Option Spelling)
    (metadata : Metadata) :
    let run mode := (e.inMode mode).run action x base metadata
    let map mode := (e.inMode mode).map action x base metadata
    let told := Conflict.told (map .warn).2
    (map .warn).1 = (map .overwrite).1 ∧
    (run .warn).2.ledger.conflicts = told.map (·.path) ∧
    (told = [] → (map .error).1 = (map .warn).1) ∧
    (∀ first rest, told = first :: rest →
      (map .error).1 = .error (.conflict first.path first.previous first.replacement)) ∧
    ∀ result, (map .error).1 = .ok result ↔ (map .overwrite).1 = .ok result ∧ told = [] := by
  intro run map told
  suffices h : (map .warn).1 = (map .overwrite).1 ∧
      (run .warn).2.ledger.conflicts = told.map (·.path) ∧
      (told = [] → (map .error).1 = (map .warn).1) ∧
      ∀ first rest, told = first :: rest →
        (map .error).1 = .error (.conflict first.path first.previous first.replacement) by
    obtain ⟨hsilent, hconflicts, hunhindered, hstopped⟩ := h
    refine ⟨hsilent, hconflicts, hunhindered, hstopped, fun result => ⟨fun hok => ?_, ?_⟩⟩
    · cases htold : told with
      | nil => exact ⟨by rw [← hsilent, ← hunhindered htold, hok], rfl⟩
      | cons first rest => exact nomatch hok.symm.trans (hstopped first rest htold)
    · rintro ⟨hok, htold⟩
      rw [hunhindered htold, hsilent, hok]
  cases hb : Path.baseDirectory base with
  | error failure =>
    have hmap : ∀ mode, map mode = (.error failure, []) := fun mode => by
      simp only [map, Engine.map, run_eq, hb]
      rfl
    have htold : told = [] := by simp only [told, hmap]; rfl
    refine ⟨by rw [hmap, hmap], ?_, fun _ => by rw [hmap, hmap], by simp [htold]⟩
    rw [htold]
    simp only [run, run_eq, hb]
    rfl
  | ok dir =>
    have hdir := Path.baseDirectory_clean hb
    have hquiet := (e.script_neutral x metadata action).tells
    have hstart : (e.inMode .warn).start.ledger.Reflects [] := Ledger.reflects_nil _
    -- The script does not know the mode, and the starts differ in nothing else.
    have hsilent := Script.Step.runAll_silenced hdir hquiet rfl hstart
    obtain ⟨new, hnew⟩ := Script.Step.refused_runAll hdir hquiet rfl hstart
    have htold : told = new := (told_map hb).trans hnew.told
    have hmap : ∀ mode, (map mode).1 =
        (Script.Step.runAll (some (.ofPath dir)) (e.script action x metadata).steps
          (e.inMode mode).start).1.bind fun _ =>
            (e.script action x metadata).outcome.map fun _ =>
              (Script.Step.runAll (some (.ofPath dir)) (e.script action x metadata).steps
                (e.inMode mode).start).2.ledger.entries.sorted := fun mode => map_outcome hb
    refine ⟨?_, ?_, fun hnil => ?_, fun first rest hfirst => ?_⟩
    · rw [hmap, hmap, show (e.inMode .overwrite).start = (e.inMode .warn).start.silenced from rfl,
        hsilent]
      rfl
    · rw [htold]
      exact (congrArg Ledger.conflicts (run_ledger hb)).trans hnew.conflicts
    · rw [hmap, hmap, show (e.inMode .error).start = (e.inMode .warn).start.refusing from rfl,
        hnew.unhindered (htold ▸ hnil)]
      rfl
    · rw [hmap, show (e.inMode .error).start = (e.inMode .warn).start.refusing from rfl,
        hnew.stopped first rest (htold ▸ hfirst)]
      rfl

/-- Two conflicts, the second of them after an equal input was written by another phase. -/
def contested : Action where
  inputs := [{ execPath := .ofString "a/b" }, { execPath := .ofString "a/c" }]
  runfiles := .ofList [(.ofString "a", .ofList [
    (.ofString "c", some { execPath := .ofString "a/c" }),
    (.ofString "x/../b", none)])]
  filesets := .ofList [({ execPath := .ofString "a", kind := .fileset },
    [⟨.ofString "c", some "s", true⟩])]

theorem contested_in_modes :
    let map mode := ((lenient.inMode mode).map contested expander (some (.ofString "out"))
      fun _ => .ok .file)
    Conflict.told (map .warn).2 =
      [⟨.ofString "out/a/b", .artifact { execPath := .ofString "a/b" }, .empty⟩,
       ⟨.ofString "out/a/c", .artifact { execPath := .ofString "a/c" },
        .location (.ofString "/exec/s")⟩] ∧
    (map .warn).1 = (map .overwrite).1 ∧
    (map .error).1 = .error (.conflict (.ofString "out/a/b")
      (.artifact { execPath := .ofString "a/b" }) .empty) := by
  intro map
  have htold : Conflict.told (map .warn).2 =
      [⟨.ofString "out/a/b", .artifact { execPath := .ofString "a/b" }, .empty⟩,
       ⟨.ofString "out/a/c", .artifact { execPath := .ofString "a/c" },
        .location (.ofString "/exec/s")⟩] := by decide
  obtain ⟨hsilent, -, -, hstopped, -⟩ := modes_in_step lenient contested expander
    (some (.ofString "out")) fun _ => .ok .file
  exact ⟨htold, hsilent, hstopped _ _ htold⟩

end Engine

end InputStaging
