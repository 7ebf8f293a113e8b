import InputStaging.Service
import Mathlib.Data.List.Forall2
import Mathlib.Logic.Relation

/-!
# Schedules of a service

The calls of a service run side by side, as many as are permitted, and in whatever order they begin
and end. None of this shows in what is returned: every schedule comes to its end, and then the
outcome is that of the calls one after another.
-/

namespace InputStaging

namespace Service

variable {s : Service} {rs : List Request} {a a' : Agenda}

/-! ## Services -/

/-- A service lets at least one call run, and is refused only if it were to let less than none. -/
theorem make_cases (engine : Engine) (limit : Option Int) (processors : Nat) :
    (∃ s, make engine limit processors = .ok s ∧ 1 ≤ s.limit ∧
      ∀ n ∈ limit, 0 < n → (s.limit : Int) = n) ∨
    ∃ n ∈ limit, n < 0 ∧ make engine limit processors = .error .negativeLimit := by
  unfold make
  split
  next hnone =>
    refine .inl ⟨_, rfl, Nat.le_max_right _ _, fun n hn hpos => ?_⟩
    have hzero := Option.filter_eq_none_iff.mp hnone n hn
    simp only [ne_eq, decide_not, Bool.not_eq_true', decide_eq_false_iff_not,
      Decidable.not_not] at hzero
    omega
  next n hsome =>
    obtain ⟨hn, hne⟩ := Option.filter_eq_some_iff.mp hsome
    have hne : n ≠ 0 := of_decide_eq_true hne
    split
    next hneg => exact .inr ⟨n, hn, hneg, rfl⟩
    next hpos =>
      refine .inl ⟨_, rfl, ?_, fun m hm _ => ?_⟩
      · show 1 ≤ n.toNat
        omega
      · have hsame : m = n := Option.mem_unique hm hn
        show (n.toNat : Int) = m
        omega

/-- Settings never ask for a service that is refused, as a limit is at least one. -/
theorem ofSettings_isOk (settings : Settings) (processors : Nat) :
    ∃ s, ofSettings settings processors = .ok s ∧ 1 ≤ s.limit ∧
      ∀ n ∈ settings.maxConcurrent, s.limit = n := by
  rcases make_cases (.ofSettings settings) (settings.maxConcurrent.map Int.ofNat) processors with
    ⟨s, hs, hpos, hlimit⟩ | ⟨n, hn, hneg, -⟩
  · refine ⟨s, hs, hpos, fun n hn => ?_⟩
    have hle := settings.limit_pos n hn
    have hsame := hlimit n (Option.mem_map_of_mem _ hn) (by omega)
    exact Int.ofNat.inj hsame
  · obtain ⟨m, -, rfl⟩ := Option.map_eq_some_iff.mp hn
    exact absurd hneg (by simp)

/-! ## One call after another -/

theorem mapAll_cons_of_error {r : Request} {f : Failure} (hr : s.map r = .error f)
    (rest : List Request) : s.mapAll (r :: rest) = .error f := by
  rw [mapAll, List.mapM_cons, hr]
  rfl

theorem mapAll_cons_of_ok {r : Request} {result : List (Path × Input)} (hr : s.map r = .ok result)
    (rest : List Request) : s.mapAll (r :: rest) = (s.mapAll rest).map (result :: ·) := by
  rw [mapAll, mapAll, List.mapM_cons, hr]
  cases rest.mapM s.map <;> rfl

/-- All requests are mapped, each to its own mapping. -/
theorem mapAll_eq_ok_iff {results : List (List (Path × Input))} :
    s.mapAll rs = .ok results ↔ List.Forall₂ (fun r result => s.map r = .ok result) rs results := by
  induction rs generalizing results with
  | nil =>
    rw [List.forall₂_nil_left_iff, mapAll, List.mapM_nil]
    exact ⟨fun h => (Except.ok.inj h).symm, fun h => congrArg Except.ok h.symm⟩
  | cons r rest ih =>
    rw [List.forall₂_cons_left_iff]
    cases hr : s.map r with
    | error f =>
      rw [mapAll_cons_of_error hr]
      exact ⟨nofun, fun ⟨_, _, h, _⟩ => nomatch h⟩
    | ok result =>
      rw [mapAll_cons_of_ok hr]
      cases hrest : s.mapAll rest with
      | error f =>
        refine ⟨nofun, fun ⟨_, others, _, hothers, _⟩ => ?_⟩
        cases hrest.symm.trans (ih.mpr hothers)
      | ok others =>
        constructor
        · intro h
          obtain rfl := Except.ok.inj h
          exact ⟨result, others, rfl, ih.mp hrest, rfl⟩
        · rintro ⟨result', others', hresult, hothers, rfl⟩
          obtain rfl := Except.ok.inj hresult
          obtain rfl := Except.ok.inj (hrest.symm.trans (ih.mpr hothers))
          rfl

theorem mapAll_of_fails {before after : List Request} {r : Request} {f : Failure}
    (hbefore : ∀ r' ∈ before, ∃ result, s.map r' = .ok result) (hr : s.map r = .error f) :
    s.mapAll (before ++ r :: after) = .error f := by
  induction before with
  | nil => exact mapAll_cons_of_error hr after
  | cons first before ih =>
    obtain ⟨⟨result, hresult⟩, hbefore⟩ := List.forall_mem_cons.mp hbefore
    rw [List.cons_append, mapAll_cons_of_ok hresult, ih hbefore]
    rfl

/-- What fails is the first request that fails, in the order of the requests. -/
theorem mapAll_eq_error_iff {f : Failure} : s.mapAll rs = .error f ↔
    ∃ before r after, rs = before ++ r :: after ∧ (∀ r' ∈ before, ∃ result, s.map r' = .ok result) ∧
      s.map r = .error f := by
  refine ⟨fun h => ?_, fun ⟨_, _, _, hsplit, hbefore, hr⟩ => hsplit ▸ mapAll_of_fails hbefore hr⟩
  induction rs with
  | nil => cases h
  | cons r rest ih =>
    cases hr : s.map r with
    | error f' =>
      rw [mapAll_cons_of_error hr] at h
      obtain rfl := Except.error.inj h
      exact ⟨[], r, rest, rfl, List.forall_mem_nil _, hr⟩
    | ok result =>
      rw [mapAll_cons_of_ok hr] at h
      cases hrest : s.mapAll rest with
      | ok others => rw [hrest] at h; cases h
      | error f' =>
        rw [hrest] at h
        obtain rfl := Except.error.inj h
        obtain ⟨before, r', after, rfl, hbefore, hfails⟩ := ih hrest
        refine ⟨r :: before, r', after, rfl, ?_, hfails⟩
        exact List.forall_mem_cons.mpr ⟨⟨result, hr⟩, hbefore⟩

/-! ## What a step preserves -/

/-- The agenda is one of these requests. Permits are held by the calls that run, and a call that is
done has come to what its request is mapped to. -/
structure Kept (s : Service) (rs : List Request) (a : Agenda) : Prop where
  permits : a.active + a.permits = s.limit
  requests : a.calls.map Prod.fst = rs
  outcomes : ∀ r outcome, (r, .done outcome) ∈ a.calls → outcome = s.map r

theorem kept_begin (s : Service) (rs : List Request) : s.Kept rs (s.begin rs) where
  permits := by
    have hnone : (s.begin rs).active = 0 := by
      refine List.countP_eq_zero.mpr fun call hcall => ?_
      obtain ⟨r, -, rfl⟩ := List.mem_map.mp hcall
      simp [Call.isRunning]
    rw [hnone, Nat.zero_add]
    rfl
  requests := by simp [begin, Function.comp_def]
  outcomes r outcome h := by
    obtain ⟨r', -, hcall⟩ := List.mem_map.mp h
    cases hcall

theorem Kept.step (h : s.Kept rs a) (hstep : s.Step a a') : s.Kept rs a' := by
  obtain ⟨hpermits, hrequests, houtcomes⟩ := h
  cases hstep with
  | begins =>
    rename_i permits before after r
    refine ⟨?_, by simpa using hrequests, fun r' outcome hdone => houtcomes r' outcome ?_⟩
    · simp [Agenda.active, List.countP_append, Call.isRunning] at hpermits ⊢
      omega
    · simpa using hdone
  | ends =>
    rename_i permits before after r
    refine ⟨?_, by simpa using hrequests, fun r' outcome hdone => ?_⟩
    · simp [Agenda.active, List.countP_append, Call.isRunning] at hpermits ⊢
      omega
    · rcases List.mem_append.mp hdone with hbefore | hafter
      · exact houtcomes r' outcome (List.mem_append_left _ hbefore)
      · rcases List.mem_cons.mp hafter with hcall | hafter
        · cases hcall
          rfl
        · exact houtcomes r' outcome (List.mem_append_right _ (List.mem_cons_of_mem _ hafter))

/-- An agenda to which the requests can come, one step after another. -/
abbrev Reaches (s : Service) : Agenda → Agenda → Prop := Relation.ReflTransGen s.Step

theorem kept_of_reaches (h : s.Reaches (s.begin rs) a) : s.Kept rs a := by
  induction h with
  | refl => exact s.kept_begin rs
  | tail _ hstep ih => exact ih.step hstep

/-- Never do more calls run than are permitted. -/
theorem active_le_limit (h : s.Reaches (s.begin rs) a) : a.active ≤ s.limit := by
  have hpermits := (kept_of_reaches h).permits
  omega

/-! ## The end of a schedule -/

def Call.isWaiting : Call → Bool
  | waiting => true
  | running | done _ => false

/-- How much is still to be done: a call that waits has to begin and to end, one that runs has to
end. -/
def Agenda.ahead (a : Agenda) : Nat := 2 * a.calls.countP (·.2.isWaiting) + a.active

/-- With every step there is less ahead, so that no schedule goes on forever. -/
theorem ahead_step (h : s.Step a a') : a'.ahead < a.ahead := by
  cases h with
  | begins =>
    simp [Agenda.ahead, Agenda.active, List.countP_append, Call.isWaiting, Call.isRunning]
    omega
  | ends =>
    simp [Agenda.ahead, Agenda.active, List.countP_append, Call.isWaiting, Call.isRunning]

theorem wellFounded_step (s : Service) : WellFounded fun a' a => s.Step a a' :=
  Subrelation.wf ahead_step (measure Agenda.ahead).wf

/-- As long as a call is not done, something can be done. -/
theorem exists_step (hpos : 1 ≤ s.limit) (h : s.Kept rs a) {r : Request} {call : Call}
    (hcall : (r, call) ∈ a.calls) (hopen : call.outcome? = none) : ∃ a', s.Step a a' := by
  obtain ⟨permits, calls⟩ := a
  by_cases hrunning : ∃ r', (r', Call.running) ∈ calls
  case pos =>
    obtain ⟨r', hr'⟩ := hrunning
    obtain ⟨before, after, rfl⟩ := List.append_of_mem hr'
    exact ⟨_, .ends⟩
  case neg =>
    -- Nothing runs, so that no permit is held, and the call is one that waits.
    have hidle : Agenda.active ⟨permits, calls⟩ = 0 := by
      refine List.countP_eq_zero.mpr fun c hc => ?_
      obtain ⟨r', c⟩ := c
      cases c with
      | running => exact absurd ⟨r', hc⟩ hrunning
      | _ => simp [Call.isRunning]
    have hpermits := h.permits
    rw [hidle, Nat.zero_add] at hpermits
    obtain ⟨before, after, rfl⟩ := List.append_of_mem hcall
    cases call with
    | waiting =>
      obtain ⟨n, rfl⟩ : ∃ n, permits = n + 1 := ⟨permits - 1, by
        have hlimit : permits = s.limit := hpermits
        omega⟩
      exact ⟨_, .begins⟩
    | running => exact absurd ⟨r, hcall⟩ hrunning
    | done outcome => cases hopen

/-- Where nothing is left to be done, every call has come to what its request is mapped to. -/
theorem calls_of_idle (hpos : 1 ≤ s.limit) (h : s.Kept rs a) (hidle : ∀ a', ¬ s.Step a a') :
    a.calls = rs.map fun r => (r, .done (s.map r)) := by
  have hdone : ∀ e ∈ a.calls, e = (e.1, .done (s.map e.1)) := by
    rintro ⟨r, call⟩ he
    cases call with
    | done outcome => rw [h.outcomes r outcome he]
    | _ =>
      obtain ⟨a', hstep⟩ := exists_step hpos h he rfl
      exact absurd hstep (hidle a')
  rw [← h.requests, List.map_map]
  calc a.calls = a.calls.map id := (List.map_id _).symm
    _ = a.calls.map ((fun r => (r, .done (s.map r))) ∘ Prod.fst) := List.map_congr_left hdone

theorem outcome?_done (rs : List Request) (outcome : Request → Except Failure (List (Path × Input)))
    (permits : Nat) : Agenda.outcome? ⟨permits, rs.map fun r => (r, .done (outcome r))⟩ =
      some (rs.mapM outcome) := by
  have hcalls : (rs.map fun r => (r, Call.done (outcome r))).mapM
      (fun (c : Request × Call) => c.2.outcome?) = some (rs.map outcome) := by
    rw [List.mapM_map]
    exact List.mapM_pure
  have hresults : (rs.map outcome).mapM id = rs.mapM outcome := by
    rw [List.mapM_map, Function.id_comp]
  rw [Agenda.outcome?, hcalls, Option.map_some, hresults]

/-- Whatever the schedule, the outcome is that of the calls one after another. -/
theorem outcome_of_idle (hpos : 1 ≤ s.limit) (h : s.Reaches (s.begin rs) a)
    (hidle : ∀ a', ¬ s.Step a a') : a.outcome? = some (s.mapAll rs) := by
  obtain ⟨permits, calls⟩ := a
  have hcalls : calls = _ := calls_of_idle hpos (kept_of_reaches h) hidle
  rw [hcalls]
  exact outcome?_done rs s.map permits

end Service

end InputStaging
