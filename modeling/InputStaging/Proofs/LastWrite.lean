import InputStaging.Proofs.Containment
import InputStaging.Proofs.Requests

/-!
# The last write wins

Without conflict handling a call is its requests: it returns if each phase returns by
itself, and at every destination the last request is what counts.
-/

namespace InputStaging

namespace Engine

/-- A phase by itself, in silence: nothing that was written before can stop it. -/
theorem alone_isOk_iff {s : Script Nat} {dir : Path} (hdir : dir.Clean) :
    (∃ n, ((s.play (some (.ofPath dir))).run.run {}).1 = .ok n) ↔
      (∃ n, s.outcome = .ok n) ∧ ∀ w ∈ Script.Step.asks s.steps, dir.Admits w.1 := by
  rw [← Script.play_isOk_iff hdir (p := {}) rfl (Ledger.reflects_nil .overwrite)]
  exact exists_congr fun n => ⟨fun h => ⟨_, Prod.ext h rfl⟩, fun ⟨_, h⟩ => congrArg Prod.fst h⟩

variable {e : Engine} {action : Action} {x : Expander} {base : Option Spelling}
  {metadata : Metadata} {dir : Path}

theorem map_isOk_iff (hmode : e.conflictMode = .overwrite)
    (hbase : Path.baseDirectory base = .ok dir) :
    (∃ result, (e.map action x base metadata).1 = .ok result) ↔
      (∃ n, ((stageInputs x (some (.ofPath dir)) action.inputs).run.run {}).1 = .ok n) ∧
      (∃ n, ((e.stageRunfiles metadata x (some (.ofPath dir)) action.runfiles).run.run {}).1 =
        .ok n) ∧
      (∃ n, ((e.stageFilesets (some (.ofPath dir)) action.filesets).run.run {}).1 = .ok n) := by
  have hdir := Path.baseDirectory_clean hbase
  have hmap : (∃ result, (e.map action x base metadata).1 = .ok result) ↔
      ∃ counts p, (e.script action x metadata).play (some (.ofPath dir)) e.start =
        (.ok counts, p) := by
    constructor
    · rintro ⟨result, h⟩
      obtain ⟨dir', counts, p, hb, hp, -⟩ := map_eq_ok_iff.mp h
      obtain rfl := Except.ok.inj (hbase.symm.trans hb)
      exact ⟨counts, p, hp⟩
    · rintro ⟨counts, p, hp⟩
      exact ⟨_, map_eq_ok_iff.mpr ⟨dir, counts, p, hbase, hp, rfl⟩⟩
  rw [stageRunfiles, stageFilesets, ← play_inputs, ← play_roots, ← play_mounts,
    alone_isOk_iff hdir, alone_isOk_iff hdir, alone_isOk_iff hdir, hmap,
    Script.play_isOk_iff hdir hmode (Ledger.reflects_nil e.conflictMode)]
  constructor
  · rintro ⟨⟨counts, hok⟩, hadm⟩
    obtain ⟨hd, hr, hf⟩ := script_outcome.mp hok
    simp only [script_steps hok, Script.Step.asks, Script.Step.asks_append, List.mem_append] at hadm
    exact ⟨⟨⟨_, hd⟩, fun w hw => hadm w (.inl hw)⟩,
      ⟨⟨_, hr⟩, fun w hw => hadm w (.inr (.inl hw))⟩,
      ⟨⟨_, hf⟩, fun w hw => hadm w (.inr (.inr hw))⟩⟩
  · rintro ⟨⟨⟨direct, hd⟩, had⟩, ⟨⟨runfiles, hr⟩, har⟩, ⟨⟨filesets, hf⟩, haf⟩⟩
    have hok : (e.script action x metadata).outcome = .ok (direct, runfiles, filesets) :=
      script_outcome.mpr ⟨hd, hr, hf⟩
    refine ⟨⟨_, hok⟩, fun w hw => ?_⟩
    simp only [script_steps hok, Script.Step.asks, Script.Step.asks_append, List.mem_append] at hw
    rcases hw with hw | hw | hw
    · exact had w hw
    · exact har w hw
    · exact haf w hw

/-- Without conflict handling a call returns exactly if each phase by itself returns, and
then it returns, in strictly increasing order, the destinations of all that is asked for,
each with the last input asked for there. -/
theorem map_last_write (e : Engine) (action : Action) (x : Expander) (base : Option Spelling)
    (metadata : Metadata) (dir : Path) (hmode : e.conflictMode = .overwrite)
    (hbase : Path.baseDirectory base = .ok dir) :
    ((∃ result, (e.map action x base metadata).1 = .ok result) ↔
      (∃ n, ((stageInputs x (some (.ofPath dir)) action.inputs).run.run {}).1 = .ok n) ∧
      (∃ n, ((e.stageRunfiles metadata x (some (.ofPath dir)) action.runfiles).run.run {}).1 =
        .ok n) ∧
      (∃ n, ((e.stageFilesets (some (.ofPath dir)) action.filesets).run.run {}).1 = .ok n)) ∧
    ∀ result, (e.map action x base metadata).1 = .ok result →
      (result.Pairwise fun a b =>
        a.1.segments.map Text.codes < b.1.segments.map Text.codes) ∧
      (∀ d, d ∈ result.map Prod.fst ↔
        ∃ w ∈ e.requests action x, (dir / w.1).normalize = d) ∧
      ∀ d v, (d, v) ∈ result ↔ (inputsAt dir d (e.requests action x)).getLast? = some v := by
  refine ⟨map_isOk_iff hmode hbase, fun result h => ?_⟩
  obtain ⟨dir', p, hb, hpass, ⟨counts, hok⟩, rfl, -⟩ := passed_of_map h
  obtain rfl := Except.ok.inj (hbase.symm.trans hb)
  have hlast : ∀ d v, (d, v) ∈ p.ledger.entries.sorted ↔
      (inputsAt dir d (e.requests action x)).getLast? = some v := fun d v => by
    rw [Table.mem_sorted_iff, hpass.reflects.entries, List.nil_append, history_script hok,
      Write.last?_ofParts, requests]
  refine ⟨?_, ?_, hlast⟩
  -- Relative paths have no root among their parts.
  · have hrel : ∀ entry ∈ p.ledger.entries.sorted, entry.1.rank =
        entry.1.segments.map Text.codes := fun ⟨d, v⟩ hmem =>
      Path.rank_of_relative (hpass.contained (Path.baseDirectory_clean hbase)
        (Table.mem_sorted_iff.mp hmem)).1.relative
    refine p.ledger.entries.sorted_pairwise.imp_of_mem fun {a b} ha hb hab => ?_
    rwa [hrel a ha, hrel b hb] at hab
  · intro d
    rw [← inputsAt_ne_nil_iff, ← List.getLast?_isSome, Option.isSome_iff_exists, List.mem_map]
    constructor
    · rintro ⟨⟨d, v⟩, hmem, rfl⟩
      exact ⟨v, (hlast d v).mp hmem⟩
    · rintro ⟨v, hv⟩
      exact ⟨(d, v), (hlast d v).mpr hv, rfl⟩

def silent : Engine := ⟨⟨.ofString "/build", .ignore, 2, by decide⟩, false, .overwrite⟩

/-- One destination asked for in each phase, and twice among the direct inputs. -/
def overlaps : Action where
  inputs := [{ execPath := .ofString "a" }, { execPath := .ofString "fs/n" },
    { execPath := .ofString "fs/x/../n" }]
  runfiles := .ofList [(.ofString "fs", .ofList [(.ofString "n", none)])]
  filesets := .ofList [({ execPath := .ofString "fs", kind := .fileset },
    [⟨.ofString "o", some "n", false⟩, ⟨.ofString "n", some "s", true⟩])]

theorem last_write_of_overlaps :
    ∃ dir result, Path.baseDirectory (some (.ofString "out")) = .ok dir ∧
      (silent.map overlaps ({} : Registry).expander (some (.ofString "out"))
        fun _ => .ok .absent).1 = .ok result ∧
      result.map (fun e => (e.1.text, e.2.text)) =
        [("out/a", "a"), ("out/fs/n", "/build/s"), ("out/fs/o", "/build/s")] ∧
      ∀ d v, (d, v) ∈ result ↔
        (inputsAt dir d (silent.requests overlaps ({} : Registry).expander)).getLast? = some v := by
  have hok : (silent.map overlaps ({} : Registry).expander (some (.ofString "out"))
      fun _ => .ok .absent).1.toOption.isSome = true := by decide
  have hb : Path.baseDirectory (some (.ofString "out")) = .ok (.ofString "out") := by rfl
  cases h : (silent.map overlaps ({} : Registry).expander (some (.ofString "out"))
      fun _ => .ok .absent).1 with
  | error failure => simp [h, Except.toOption] at hok
  | ok result =>
    obtain ⟨-, hresult⟩ := map_last_write silent overlaps ({} : Registry).expander
      (some (.ofString "out")) (fun _ => .ok .absent) (.ofString "out") rfl hb
    refine ⟨_, result, hb, rfl, ?_, (hresult result h).2.2⟩
    rw [result_of_map h, Table.sorted_of_pairwise (by decide)]
    decide

end Engine

end InputStaging
