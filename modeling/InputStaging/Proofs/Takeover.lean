import InputStaging.Proofs.Requests

/-!
# Takeovers

A write is compared with the entry it replaces and with nothing older. So what a call
checks at a destination is that each phase begins with what it finds there. Whether the
phases agree on what they end with is another matter: a phase that begins with what it
finds has made the destination its own, and may then put something else there unseen.
-/

namespace InputStaging

/-! ## The inputs of the phases at one destination -/

section
variable {hs pre post : List (List Input)}

/-- No phase ends with another input than any other phase. -/
def Agree (hs : List (List Input)) : Prop :=
  ∀ g ∈ hs, ∀ g' ∈ hs, ∀ v v', g.getLast? = some v → g'.getLast? = some v' → v = v'

/-- Each phase begins with the input that it finds. -/
def HandedOn (hs : List (List Input)) : Prop :=
  ∀ pre g post, hs = pre ++ g :: post → ∀ u v, pre.flatten.getLast? = some u →
    g.head? = some v → u = v

/-- Each phase that finds an input ends with the one it began with. -/
def Steady (hs : List (List Input)) : Prop :=
  ∀ pre g post, hs = pre ++ g :: post → pre.flatten ≠ [] → g.head? = g.getLast?

theorem getLast?_of_flatten {u : Input} (h : pre.flatten.getLast? = some u) :
    ∃ g ∈ pre, g.getLast? = some u := by
  rw [List.getLast?_flatten] at h
  obtain ⟨g, hg, hu⟩ := List.exists_of_findSome?_eq_some h
  exact ⟨g, List.mem_reverse.mp hg, hu⟩

theorem Agree.steady (hh : HandedOn hs) (ha : Agree hs) : Steady hs := by
  intro pre g post hsplit hne
  cases g with
  | nil => rfl
  | cons v rest =>
    obtain ⟨u, hu⟩ := Option.isSome_iff_exists.mp (List.getLast?_isSome.mpr hne)
    obtain ⟨w, hw⟩ := Option.isSome_iff_exists.mp
      (List.getLast?_isSome.mpr (List.cons_ne_nil v rest))
    obtain ⟨g', hg', hu'⟩ := getLast?_of_flatten hu
    -- What the phase finds is what some phase before it ended with.
    have huv : u = v := hh pre _ post hsplit u v hu rfl
    have huw : u = w := ha g' (by simp [hsplit, hg']) _ (by simp [hsplit]) u w hu' hw
    rw [hw, ← huw, huv]
    rfl

theorem Steady.getLast?_flatten (hh : HandedOn hs) (hst : Steady hs) :
    hs = pre ++ post →
      (∀ g ∈ pre, ∀ v, g.getLast? = some v → pre.flatten.getLast? = some v) →
      ∀ g ∈ hs, ∀ v, g.getLast? = some v → hs.flatten.getLast? = some v := by
  -- The induction goes over the phases yet to come; those behind all end with what is there.
  induction post generalizing pre with
  | nil =>
    intro hsplit hpre
    rw [List.append_nil] at hsplit
    rwa [hsplit]
  | cons g rest ih =>
    intro hsplit hpre
    refine @ih (pre ++ [g]) (by simp [hsplit]) fun g' hg' v hv => ?_
    rw [List.flatten_append, List.flatten_singleton, List.getLast?_append]
    rcases List.mem_append.mp hg' with hg' | hg'
    · have hu := hpre g' hg' v hv
      cases hlast : g.getLast? with
      | none => simpa using hu
      | some w =>
        have hne : pre.flatten ≠ [] := List.getLast?_isSome.mp (by simp [hu])
        have hhead : g.head? = some w := (hst pre g rest hsplit hne).trans hlast
        rw [hh pre g rest hsplit v w hu hhead]
        rfl
    · obtain rfl := List.mem_singleton.mp hg'
      rw [hv]
      rfl

/-- Phases that begin with what they find agree exactly if they also end with it. -/
theorem agree_iff_steady (hh : HandedOn hs) : Agree hs ↔ Steady hs := by
  refine ⟨fun ha => ha.steady hh, fun hst g hg g' hg' v v' hv hv' => ?_⟩
  have hall := @Steady.getLast?_flatten hs [] hs hh hst rfl (by simp)
  exact Option.some.inj ((hall g hg v hv).symm.trans (hall g' hg' v' hv'))

end

/-! ## What the ledger sees to -/

def histories (dir d : Path) (parts : List (Phase × List (Path × Input))) : List (List Input) :=
  parts.map fun part => inputsAt dir d part.2

/-- Requests split at the first of them that comes to lie at a destination. -/
theorem exists_first {dir d : Path} {v : Input} {rs : List (Path × Input)}
    (h : (inputsAt dir d rs).head? = some v) :
    ∃ before location after, rs = before ++ (location, v) :: after ∧
      (dir / location).normalize = d ∧ inputsAt dir d before = [] := by
  induction rs with
  | nil => cases h
  | cons w rest ih =>
    obtain ⟨location, v'⟩ := w
    by_cases hd : (dir / location).normalize = d
    · have hv : v' = v := by simpa [inputsAt, hd] using h
      exact ⟨[], location, rest, by rw [hv]; rfl, hd, rfl⟩
    · obtain ⟨before, location', after, hrest, hd', hnone⟩ := ih (by simpa [inputsAt, hd] using h)
      refine ⟨(location, v') :: before, location', after, by rw [hrest]; rfl, hd', ?_⟩
      simpa [inputsAt, hd] using hnone

/-- Where no write clashes with the one before it, each phase begins with what it finds. -/
theorem handedOn_of_clashes {dir d : Path} {parts : List (Phase × List (Path × Input))}
    (hphases : (parts.map Prod.fst).Nodup)
    (h : ∀ c ∈ Write.clashes [] (Write.ofParts dir parts), c.2.path ≠ d) :
    HandedOn (histories dir d parts) := by
  intro pre g post hsplit u v hu hv
  obtain ⟨earlier, rest, rfl, rfl, hrest⟩ := List.map_eq_append_iff.mp hsplit
  obtain ⟨⟨phase, rs⟩, later, rfl, rfl, -⟩ := List.map_eq_cons_iff.mp hrest
  obtain ⟨before, location, after, rfl, rfl, hnone⟩ := exists_first hv
  -- What the phase finds is the last write of the phases before it, for what it has written
  -- itself by then lies elsewhere.
  have hfound := Write.last?_ofParts dir (dir / location).normalize earlier
  rw [inputsAt_flatMap, show (earlier.map fun part => inputsAt dir _ part.2).flatten.getLast? =
    some u from hu, Option.map_eq_some_iff] at hfound
  obtain ⟨a, ha, rfl⟩ := hfound
  have hbefore : Write.last? (dir / location).normalize
      (before.map (Write.of dir phase)) = none := by
    simpa [Write.ofParts, hnone] using
      Write.last?_ofParts dir (dir / location).normalize [(phase, before)]
  have hsplit : Write.ofParts dir (earlier ++ (phase, before ++ (location, v) :: after) :: later) =
      (Write.ofParts dir earlier ++ before.map (Write.of dir phase)) ++
        Write.of dir phase (location, v) ::
          (after.map (Write.of dir phase) ++ Write.ofParts dir later) := by
    simp [Write.ofParts]
  have hphase : a.phase ≠ phase := by
    rintro rfl
    have hmem := Write.phase_mem_of_ofParts (Write.mem_of_last? ha).1
    rw [List.map_append, List.nodup_append] at hphases
    exact hphases.2.2 a.phase hmem a.phase (by simp) rfl
  apply Decidable.byContradiction
  intro hne
  rw [hsplit] at h
  refine h (a, Write.of dir phase (location, v)) (Write.mem_clashes ?_ ⟨hphase, hne⟩) rfl
  rw [List.nil_append, Write.last?_append]
  simp [Write.of, hbefore, ha]

namespace Engine

def ReplacementTold (d : Path) (log : List Event) : Prop :=
  ∃ phase previousPhase previous replacement,
    Event.inputReplaced phase previousPhase previous replacement d ∈ log

theorem nodup_parts (e : Engine) (action : Action) (x : Expander) :
    ((e.parts action x).map Prod.fst).Nodup := by
  show [Phase.inputs, Phase.runfiles, Phase.filesets].Nodup
  decide

/-- Of a call that minds conflicts and returns: at every destination, unless a replacement
there is told, each phase begins with what it finds, and all of them agree in the end
exactly if each phase that finds something also ends with it. -/
theorem map_takeovers (e : Engine) (action : Action) (x : Expander) (base : Option Spelling)
    (metadata : Metadata) (result : List (Path × Input)) (hmode : e.conflictMode ≠ .overwrite)
    (h : (e.map action x base metadata).1 = .ok result) :
    ∃ dir, Path.baseDirectory base = .ok dir ∧ ∀ d,
      let hs := histories dir d (e.parts action x)
      let noticed := e.conflictMode = .warn ∧ ReplacementTold d (e.map action x base metadata).2
      (noticed ∨ HandedOn hs) ∧ (noticed ∨ Agree hs ↔ noticed ∨ Steady hs) := by
  obtain ⟨dir, p, hb, hpass, ⟨counts, hok⟩, -, hlog⟩ := passed_of_map h
  refine ⟨dir, hb, fun d => ?_⟩
  intro hs noticed
  by_cases hn : noticed
  · simp [hn]
  · have hquiet : ∀ c ∈ Write.clashes [] (Write.ofParts dir (e.parts action x)),
        c.2.path ≠ d := by
      rintro ⟨a, w⟩ hc rfl
      rw [← history_script hok dir e.start.ledger.phase] at hc
      have hm : p.ledger.mode = e.conflictMode := hpass.mode
      rcases hpass.excused _ hc with hover | ⟨hwarn, htold⟩
      · exact hmode (hm.symm.trans hover)
      · exact hn ⟨hm.symm.trans hwarn, _, _, _, _, hlog htold⟩
    have hh : HandedOn hs := handedOn_of_clashes (e.nodup_parts action x) hquiet
    simp only [hn, false_or]
    exact ⟨hh, agree_iff_steady hh⟩

/-- Refuses links that escape, and takes the types of files on trust. -/
def watching (mode : ConflictMode) : Engine :=
  ⟨⟨.ofString "/work", .error, 256, by decide⟩, false, mode⟩

/-- The runfiles first repeat the direct input, and then put another file in its place. -/
def relapse : Action where
  inputs := [{ execPath := .ofString "a/b" }]
  runfiles := .ofList [(.ofString "a", .ofList [
    (.ofString "b", some { execPath := .ofString "a/b" }),
    (.ofString "x/../b", some { execPath := .ofString "other" })])]

/-- The inputs of the phases at the one destination of `relapse`. -/
def relapseHistories (mode : ConflictMode) : List (List Input) :=
  histories .here (.ofString "a/b") ((watching mode).parts relapse ({} : Registry).expander)

theorem takeovers_of_relapse :
    ∃ result, ((watching .error).map relapse ({} : Registry).expander none
        fun _ => .ok .file).1 = .ok result ∧
      HandedOn (relapseHistories .error) := by
  have hc : ((watching .error).map relapse ({} : Registry).expander none
      fun _ => .ok .file).1.toOption.isSome = true := by decide
  cases h : ((watching .error).map relapse ({} : Registry).expander none
      fun _ => .ok .file).1 with
  | error failure => simp [h, Except.toOption] at hc
  | ok result =>
    obtain ⟨dir, hdir, hall⟩ := map_takeovers _ _ _ _ _ result (by decide) h
    obtain rfl := Except.ok.inj hdir
    exact ⟨result, rfl, (hall (.ofString "a/b")).1.resolve_left fun hn => absurd hn.1 (by decide)⟩

/-- The call returns, or tells of no conflict, although its phases disagree. -/
theorem relapse_unnoticed :
    ((watching .error).map relapse ({} : Registry).expander none
      fun _ => .ok .file).1.toOption.isSome = true ∧
    ((watching .warn).map relapse ({} : Registry).expander none
      fun _ => .ok .file).2 = [.mapped 1 2 0 1 0] ∧
    ∀ mode, ¬ Agree (relapseHistories mode) := by
  refine ⟨by decide, by decide, fun mode hagree => ?_⟩
  have hs : relapseHistories mode =
      [[.artifact { execPath := .ofString "a/b" }],
       [.artifact { execPath := .ofString "a/b" }, .artifact { execPath := .ofString "other" }],
       []] := by rfl
  rw [hs] at hagree
  have hlasts := hagree _ (List.mem_cons_self ..) _
    (List.mem_cons_of_mem _ (List.mem_cons_self ..)) _ _ rfl rfl
  exact absurd hlasts (by decide)

end Engine

end InputStaging
