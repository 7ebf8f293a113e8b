import InputStaging.Proofs.History
import Mathlib.Data.List.Forall2

/-!
# Writing to a plain table

A table that only overwrites stops no write. A run of writes comes to its end there exactly if every
location has a destination, whatever the table holds, and then the last input written at each
destination is what is found there. Everything else in the table stays.
-/

namespace InputStaging

namespace Ledger

/-- Writes one after another, without looking. -/
def putAll (l : Ledger) (ws : List (Path × Input)) : Ledger :=
  ws.foldl (fun l w => l.put w.1 w.2) l

theorem putAll_cons (l : Ledger) (w : Path × Input) (ws : List (Path × Input)) :
    l.putAll (w :: ws) = (l.put w.1 w.2).putAll ws := rfl

@[simp] theorem mode_putAll (l : Ledger) (ws : List (Path × Input)) :
    (l.putAll ws).mode = l.mode := by
  induction ws generalizing l with
  | nil => rfl
  | cons w rest ih => rw [putAll_cons, ih, put]

theorem entries_putAll (l : Ledger) (ws : List (Path × Input)) :
    (l.putAll ws).entries = ws.foldl (fun t w => t.insert w.1 w.2) l.entries := by
  induction ws generalizing l with
  | nil => rfl
  | cons w rest ih => rw [putAll_cons, ih, put, List.foldl_cons]

theorem get?_putAll (l : Ledger) (ws : List (Path × Input)) (d : Path) :
    (l.putAll ws).entries.get? d = (Table.find d ws.reverse).or (l.entries.get? d) := by
  rw [entries_putAll, Table.get?_foldl_insert]

end Ledger

/-- What a write asks for, at its destination beneath the base directory. -/
structure Placed (base : Option Spelling) (w placed : Path × Input) : Prop where
  destination : Path.destination base (.ofPath w.1) = .ok placed.1
  input : placed.2 = w.2

theorem exists_write_of_placed {base : Option Spelling} {ws placed : List (Path × Input)}
    (h : List.Forall₂ (Placed base) ws placed) {d : Path × Input} (hd : d ∈ placed) :
    ∃ w ∈ ws, Placed base w d := by
  induction h with
  | nil => cases hd
  | cons hw _ ih =>
    rcases List.mem_cons.mp hd with rfl | hd
    · exact ⟨_, List.mem_cons_self, hw⟩
    · obtain ⟨w, hin, hplaced⟩ := ih hd
      exact ⟨w, List.mem_cons_of_mem _ hin, hplaced⟩

theorem exists_placed_of_write {base : Option Spelling} {ws placed : List (Path × Input)}
    (h : List.Forall₂ (Placed base) ws placed) {w : Path × Input} (hw : w ∈ ws) :
    ∃ d ∈ placed, Placed base w d := by
  induction h with
  | nil => cases hw
  | cons hfirst _ ih =>
    rcases List.mem_cons.mp hw with rfl | hw
    · exact ⟨_, List.mem_cons_self, hfirst⟩
    · obtain ⟨d, hin, hplaced⟩ := ih hw
      exact ⟨d, List.mem_cons_of_mem _ hin, hplaced⟩

theorem runAll_stage_iff {base : Option Spelling} {ws : List (Path × Input)} {p p' : Progress}
    (hm : p.ledger.mode = .overwrite) :
    Script.Step.runAll base (ws.map fun w => .stage w.1 w.2) p = (.ok (), p') ↔
      ∃ placed, List.Forall₂ (Placed base) ws placed ∧
        p' = { p with ledger := p.ledger.putAll placed } := by
  induction ws generalizing p with
  | nil =>
    constructor
    · intro h
      exact ⟨[], .nil, (Prod.mk.inj h).2.symm⟩
    · rintro ⟨placed, hplaced, rfl⟩
      cases hplaced
      rfl
  | cons w rest ih =>
    rw [List.map_cons, Script.Step.runAll]
    cases hd : Path.destination base (.ofPath w.1) with
    | error e =>
      rw [Script.Step.run_stage_error hd]
      constructor
      · intro h
        cases (Prod.mk.inj h).1
      · rintro ⟨placed, hplaced, -⟩
        cases hplaced with
        | cons hw _ => cases hd.symm.trans hw.destination
    | ok d =>
      have hput : ({ p with ledger := p.ledger.put d w.2 } : Progress).ledger.mode =
          .overwrite := hm
      rw [Script.Step.run_stage_ok hd, Ledger.write_of_overwrite hm]
      dsimp only
      rw [List.append_nil, ih hput]
      constructor
      · rintro ⟨placed, hplaced, rfl⟩
        exact ⟨(d, w.2) :: placed, .cons ⟨hd, rfl⟩ hplaced, rfl⟩
      · rintro ⟨placed, hplaced, rfl⟩
        cases hplaced with
        | cons hw hrest =>
          rename_i first placed
          obtain ⟨d', v⟩ := first
          obtain rfl := Except.ok.inj (hd.symm.trans hw.destination)
          obtain rfl : v = w.2 := hw.input
          exact ⟨placed, hrest, rfl⟩

/-- Steps that come to their end have written what they ask for. -/
theorem exists_placed_of_runAll {base : Option Spelling} {ss : List Script.Step}
    {p p' : Progress} (hm : p.ledger.mode = .overwrite)
    (h : Script.Step.runAll base ss p = (.ok (), p')) :
    ∃ made, List.Forall₂ (Placed base) (Script.Step.asks ss) made ∧
      p'.ledger.entries = made.foldl (fun t w => t.insert w.1 w.2) p.ledger.entries := by
  induction ss generalizing p with
  | nil =>
    obtain rfl := (Prod.mk.inj h).2
    exact ⟨[], .nil, rfl⟩
  | cons s rest ih =>
    cases s with
    | tell events =>
      rw [Script.Step.runAll_of_step_ok (s := .tell events) rfl] at h
      exact ih (p := { p with log := p.log ++ events }) hm h
    | enter phase =>
      rw [Script.Step.runAll_of_step_ok (s := .enter phase) rfl] at h
      exact ih (p := { p with ledger := { p.ledger with phase } }) hm h
    | stage location v =>
      cases hd : Path.destination base (.ofPath location) with
      | error failure =>
        have hfails := Script.Step.run_stage_error hd v p
        rw [Script.Step.runAll_of_step_error (congrArg Prod.fst hfails), hfails] at h
        cases (Prod.mk.inj h).1
      | ok d =>
        have hstep := Script.Step.run_stage_ok hd v p
        rw [Ledger.write_of_overwrite hm] at hstep
        rw [Script.Step.runAll_of_step_ok hstep] at h
        obtain ⟨made, hplaced, hentries⟩ := ih (by exact hm) h
        have hfirst : Placed base (location, v) (d, v) := ⟨hd, rfl⟩
        exact ⟨(d, v) :: made, .cons hfirst hplaced, hentries⟩

/-- A run of writes breaks off at a location that has no destination. What comes before has been
written. -/
def CutShort (base : Option Spelling) (ws : List (Path × Input)) (failure : Failure)
    (l l' : Ledger) : Prop :=
  ∃ before w after placed, ws = before ++ w :: after ∧
    List.Forall₂ (Placed base) before placed ∧
    Path.destination base (.ofPath w.1) = .error failure ∧ l' = l.putAll placed

theorem Placed.cutShort_cons {base : Option Spelling} {ws : List (Path × Input)}
    {failure : Failure} {l l' : Ledger} {w placed : Path × Input} (hw : Placed base w placed)
    (h : CutShort base ws failure (l.put placed.1 placed.2) l') :
    CutShort base (w :: ws) failure l l' := by
  obtain ⟨before, w', after, placed', rfl, hplaced, hdest, rfl⟩ := h
  exact ⟨w :: before, w', after, placed :: placed', rfl, .cons hw hplaced, hdest, rfl⟩

theorem runAll_stage_eq_error {base : Option Spelling} {ws : List (Path × Input)}
    {p p' : Progress} {failure : Failure} (hm : p.ledger.mode = .overwrite)
    (h : Script.Step.runAll base (ws.map fun w => .stage w.1 w.2) p = (.error failure, p')) :
    CutShort base ws failure p.ledger p'.ledger := by
  induction ws generalizing p with
  | nil => cases (Prod.mk.inj h).1
  | cons w rest ih =>
    rw [List.map_cons, Script.Step.runAll] at h
    cases hd : Path.destination base (.ofPath w.1) with
    | error e =>
      rw [Script.Step.run_stage_error hd] at h
      obtain ⟨he, rfl⟩ := Prod.mk.inj h
      obtain rfl := Except.error.inj he
      exact ⟨[], w, rest, [], rfl, .nil, hd, rfl⟩
    | ok d =>
      rw [Script.Step.run_stage_ok hd, Ledger.write_of_overwrite hm] at h
      have hplaced : Placed base w (d, w.2) := ⟨hd, rfl⟩
      refine hplaced.cutShort_cons (ih ?_ h)
      exact hm

theorem Staging.stageAll_eq_error {base : Option Spelling} {ws : List (Path × Input)}
    {p p' : Progress} {failure : Failure} (hm : p.ledger.mode = .overwrite)
    (h : Staging.stageAll base ws p = (.error failure, p')) :
    CutShort base ws failure p.ledger p'.ledger := by
  rw [← Script.play_staging] at h
  unfold Script.play Script.staging at h
  dsimp only at h
  rcases hrun : Script.Step.runAll base (ws.map fun w => .stage w.1 w.2) p with ⟨e | _, q⟩
  · rw [hrun] at h
    obtain ⟨he, rfl⟩ := Prod.mk.inj h
    obtain rfl := Except.error.inj he
    exact runAll_stage_eq_error hm hrun
  · rw [hrun] at h
    cases (Prod.mk.inj h).1

theorem Staging.stageAll_eq_ok_iff {base : Option Spelling} {ws : List (Path × Input)}
    {p p' : Progress} {n : Nat} (hm : p.ledger.mode = .overwrite) :
    Staging.stageAll base ws p = (.ok n, p') ↔
      n = ws.length ∧ ∃ placed, List.Forall₂ (Placed base) ws placed ∧
        p' = { p with ledger := p.ledger.putAll placed } := by
  rw [← Script.play_staging, Script.play_eq_ok_iff]
  unfold Script.staging
  dsimp only
  rw [runAll_stage_iff hm]
  constructor
  · rintro ⟨hplaced, hn⟩
    exact ⟨(Except.ok.inj hn).symm, hplaced⟩
  · rintro ⟨rfl, hplaced⟩
    exact ⟨hplaced, rfl⟩

namespace Resolver

variable {r : Resolver} {links : List Link} {mount : Spelling} {base : Option Spelling}
  {p p' : Progress} {n : Nat}

/-- A fileset is staged by telling what there is to tell of its manifest, and writing that. -/
theorem stage_eq (r : Resolver) (links : List Link) (mount : Spelling) (base : Option Spelling)
    (p : Progress) : (r.stage links mount base).run.run p =
      (Staging.lift (r.manifest links mount).1 >>= fun m => Staging.stageAll base (r.writes m))
        { p with log := p.log ++ (r.manifest links mount).2 } := rfl

/-- On a plain table a fileset is staged exactly if it has a manifest and every location in that has
a destination. -/
theorem stage_eq_ok_iff (hm : p.ledger.mode = .overwrite) :
    (r.stage links mount base).run.run p = (.ok n, p') ↔
      ∃ m, (r.manifest links mount).1 = .ok m ∧ n = m.entries.size ∧
        ∃ placed, List.Forall₂ (Placed base) (r.writes m) placed ∧
          p' = { ledger := p.ledger.putAll placed
                 log := p.log ++ (r.manifest links mount).2 } := by
  let told : Progress := { p with log := p.log ++ (r.manifest links mount).2 }
  rw [stage_eq, Script.staging_bind]
  cases hmanifest : (r.manifest links mount).1 with
  | error e =>
    constructor
    · intro h
      cases (Prod.mk.inj h).1
    · rintro ⟨m, h, -⟩
      cases h
  | ok m =>
    have hwrites : (r.writes m).length = m.entries.size := List.length_map _
    show Staging.stageAll base (r.writes m) told = (.ok n, p') ↔ _
    rw [Staging.stageAll_eq_ok_iff (show told.ledger.mode = .overwrite from hm), hwrites]
    constructor
    · rintro ⟨hn, placed, hplaced, hp'⟩
      exact ⟨m, rfl, hn, placed, hplaced, hp'⟩
    · rintro ⟨m', h, hn, placed, hplaced, hp'⟩
      obtain rfl := Except.ok.inj h
      exact ⟨hn, placed, hplaced, hp'⟩

/-- A fileset that is not staged has no manifest, or is cut short. -/
theorem stage_eq_error {failure : Failure} (hm : p.ledger.mode = .overwrite)
    (h : (r.stage links mount base).run.run p = (.error failure, p')) :
    (r.manifest links mount).1 = .error failure ∧ p'.ledger = p.ledger ∨
      ∃ m, (r.manifest links mount).1 = .ok m ∧
        CutShort base (r.writes m) failure p.ledger p'.ledger := by
  rw [stage_eq, Script.staging_bind] at h
  cases hmanifest : (r.manifest links mount).1 with
  | error e =>
    rw [hmanifest] at h
    obtain ⟨he, rfl⟩ := Prod.mk.inj h
    exact .inl ⟨congrArg Except.error (Except.error.inj he), rfl⟩
  | ok m =>
    rw [hmanifest] at h
    let told : Progress := { p with log := p.log ++ (r.manifest links mount).2 }
    change Staging.stageAll base (r.writes m) told = _ at h
    exact .inr ⟨m, rfl, Staging.stageAll_eq_error (p := told) hm h⟩

/-- What a fileset stages, in a table of its own. -/
def table (r : Resolver) (links : List Link) (mount : Spelling) (base : Option Spelling) :
    Table Path Input :=
  ((r.stage links mount base).run.run {}).2.ledger.entries

theorem table_of_placed {m : Manifest} {placed : List (Path × Input)}
    (hmanifest : (r.manifest links mount).1 = .ok m)
    (hplaced : List.Forall₂ (Placed base) (r.writes m) placed) (d : Path) :
    (r.table links mount base).get? d = Table.find d placed.reverse := by
  have hown := (stage_eq_ok_iff (p := {}) rfl).mpr ⟨m, hmanifest, rfl, placed, hplaced, rfl⟩
  unfold table
  rw [hown, Ledger.get?_putAll]
  exact Option.or_none

/-- A fileset that has been staged was staged at the destinations of its locations. -/
theorem exists_location_of_table {d : Path} (hm : p.ledger.mode = .overwrite)
    (h : (r.stage links mount base).run.run p = (.ok n, p'))
    (hd : d ∈ (r.table links mount base).keys) :
    ∃ m, (r.manifest links mount).1 = .ok m ∧
      ∃ location ∈ m.entries.keys, Path.destination base (.ofPath location) = .ok d := by
  obtain ⟨m, hmanifest, -, placed, hplaced, -⟩ := (stage_eq_ok_iff hm).mp h
  obtain ⟨v, hv⟩ := Option.isSome_iff_exists.mp (Table.contains_iff.mpr hd)
  rw [table_of_placed hmanifest hplaced] at hv
  have hmem : (d, v) ∈ placed := List.mem_reverse.mp (Table.mem_of_find hv)
  obtain ⟨w, hw, hdest⟩ := exists_write_of_placed hplaced hmem
  obtain ⟨entry, hentry, rfl⟩ := List.mem_map.mp hw
  exact ⟨m, hmanifest, entry.1, List.mem_map_of_mem hentry, hdest.destination⟩

/-- What a plain table holds is of no account to whether a fileset can be staged there. -/
theorem stage_of_stage {q : Progress} (hm : p.ledger.mode = .overwrite)
    (hq : q.ledger.mode = .overwrite) (h : (r.stage links mount base).run.run p = (.ok n, p')) :
    ∃ q', (r.stage links mount base).run.run q = (.ok n, q') := by
  obtain ⟨m, hmanifest, hn, placed, hplaced, -⟩ := (stage_eq_ok_iff hm).mp h
  exact ⟨_, (stage_eq_ok_iff hq).mpr ⟨m, hmanifest, hn, placed, hplaced, rfl⟩⟩

/-- Staging a fileset puts its own table over a plain one, and changes nothing else there. -/
theorem get?_of_stage (hm : p.ledger.mode = .overwrite)
    (h : (r.stage links mount base).run.run p = (.ok n, p')) :
    p'.ledger.mode = .overwrite ∧ ∀ d, p'.ledger.entries.get? d =
      ((r.table links mount base).get? d).or (p.ledger.entries.get? d) := by
  obtain ⟨m, hmanifest, hn, placed, hplaced, rfl⟩ := (stage_eq_ok_iff hm).mp h
  refine ⟨(Ledger.mode_putAll _ _).trans hm, fun d => ?_⟩
  rw [table_of_placed hmanifest hplaced, Ledger.get?_putAll]

end Resolver

end InputStaging
