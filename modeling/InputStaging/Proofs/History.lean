import InputStaging.Proofs.CallScript
import InputStaging.Proofs.Path.NormalForm

/-!
# Histories

What the steps of a call write, each write with its phase. A ledger that reflects a
history knows the last write at every destination and nothing before it; that is all a
further write is compared with.
-/

namespace InputStaging

structure Write where
  phase : Phase
  path : Path
  value : Input

namespace Write

/-- The later write replaces another input, and not one of its own phase. -/
def Clashes (a b : Write) : Prop := a.phase ≠ b.phase ∧ a.value ≠ b.value

instance (a b : Write) : Decidable (a.Clashes b) := inferInstanceAs (Decidable (_ ∧ _))

/-- What is asked for at a location is written beneath the directory. -/
def of (dir : Path) (phase : Phase) (w : Path × Input) : Write :=
  ⟨phase, (dir / w.1).normalize, w.2⟩

def last? (d : Path) (ws : List Write) : Option Write := (ws.filter (·.path = d)).getLast?

/-- The last write at a path is the last of the later ones, if any is there. -/
theorem last?_append (d : Path) (ws ws' : List Write) :
    last? d (ws ++ ws') = (last? d ws').or (last? d ws) := by
  simp [last?, List.filter_append]

theorem last?_single (d : Path) (w : Write) :
    last? d [w] = if d = w.path then some w else none := by
  by_cases h : w.path = d <;> simp [last?, h, eq_comm]

theorem last?_snoc (d : Path) (ws : List Write) (w : Write) :
    last? d (ws ++ [w]) = if d = w.path then some w else last? d ws := by
  rw [last?_append, last?_single]
  split <;> rfl

/-- It is one of the writes, and at this path. -/
theorem mem_of_last? {d : Path} {ws : List Write} {w : Write} (h : last? d ws = some w) :
    w ∈ ws ∧ w.path = d := by
  simpa using List.mem_filter.mp (List.mem_of_getLast? h)

/-- The clashes that further writes bring about, each with the write before it. -/
def clashes (ws : List Write) : List Write → List (Write × Write)
  | [] => []
  | w :: rest =>
    ((last? w.path ws).filter (·.Clashes w)).toList.map (·, w) ++ clashes (ws ++ [w]) rest

/-- Clashes come about one after the other, each with all that was written before. -/
theorem clashes_append (ws new new' : List Write) :
    clashes ws (new ++ new') = clashes ws new ++ clashes (ws ++ new) new' := by
  induction new generalizing ws with
  | nil => simp [clashes]
  | cons w rest ih => simp [clashes, ih]

/-- One more write clashes with the last one at its path, or with none. -/
theorem mem_clashes_single {ws : List Write} {w : Write} {c : Write × Write} :
    c ∈ clashes ws [w] ↔ last? w.path ws = some c.1 ∧ c.1.Clashes w ∧ c.2 = w := by
  obtain ⟨a, b⟩ := c
  cases h : last? w.path ws with
  | none => simp [clashes, h]
  | some a' =>
    by_cases hc : a'.Clashes w
    · simp [clashes, h, hc, Option.filter]
      grind
    · simp [clashes, h, hc, Option.filter]
      grind

/-- A write clashes with the one before it, whatever is written later. -/
theorem mem_clashes {ws pre post : List Write} {a w : Write}
    (ha : last? w.path (ws ++ pre) = some a) (hc : a.Clashes w) :
    (a, w) ∈ clashes ws (pre ++ w :: post) := by
  have hw : (a, w) ∈ clashes (ws ++ pre) [w] := mem_clashes_single.mpr ⟨ha, hc, rfl⟩
  rw [List.append_cons, List.append_assoc, clashes_append, clashes_append]
  simp [hw]

end Write

namespace Ledger

/-- The ledger holds what the last writes of a history left. -/
structure Reflects (l : Ledger) (ws : List Write) : Prop where
  entries : ∀ d, l.entries.get? d = (Write.last? d ws).map (·.value)
  writers : ∀ d, l.writers.get? d = (Write.last? d ws).map (·.phase)

variable {l : Ledger} {ws : List Write}

/-- A new ledger reflects that nothing was written. -/
theorem reflects_nil (mode : ConflictMode) : Reflects { mode } [] :=
  ⟨fun _ => rfl, fun _ => rfl⟩

/-- What is put into the ledger is the last write at its path from then on. -/
theorem Reflects.put (h : l.Reflects ws) (p : Path) (v : Input) :
    (l.put p v).Reflects (ws ++ [⟨l.phase, p, v⟩]) where
  entries d := by
    rw [Write.last?_snoc]
    show (l.entries.insert p v).get? d = _
    rw [Table.get?_insert, h.entries]
    split <;> rfl
  writers d := by
    rw [Write.last?_snoc]
    show (l.writers.insert p l.phase).get? d = _
    rw [Table.get?_insert, h.writers]
    split <;> rfl

/-- The rival of a phase is whichever other phase wrote last. -/
theorem Reflects.rival?_eq (h : l.Reflects ws) (hm : l.mode ≠ .overwrite) {p : Path} {a : Write}
    (ha : Write.last? p ws = some a) :
    l.rival? p = if a.phase = l.phase then none else some a.phase := by
  rw [rival?, if_neg hm, h.writers, ha]
  by_cases hp : a.phase = l.phase <;> simp [Option.filter, hp]

theorem Reflects.rival?_eq_none (h : l.Reflects ws) {p : Path} (ha : Write.last? p ws = none) :
    l.rival? p = none := by
  rw [rival?, h.writers, ha]
  simp

theorem write_of_overwrite (hm : l.mode = .overwrite) (p : Path) (v : Input) :
    l.write p v = (l.put p v, [], .ok ()) := by
  simp [write, rival?, hm]

/-- A write that clashes with nothing is carried out in silence. -/
theorem Reflects.write_eq_put (h : l.Reflects ws) {p : Path} {v : Input}
    (hc : l.mode = .overwrite ∨ ∀ a ∈ Write.last? p ws, ¬ a.Clashes ⟨l.phase, p, v⟩) :
    l.write p v = (l.put p v, [], .ok ()) := by
  by_cases hm : l.mode = .overwrite
  · exact write_of_overwrite hm p v
  · have hc := hc.resolve_left hm
    unfold write
    cases ha : Write.last? p ws with
    | none => rw [h.rival?_eq_none ha]
    | some a =>
      rw [h.rival?_eq hm ha, h.entries, ha]
      by_cases hp : a.phase = l.phase
      · rw [if_pos hp]
      · have hv : a.value = v := Decidable.byContradiction fun hne => hc a ha ⟨hp, hne⟩
        simp [hp, hv]

/-- A write that clashes with the one before it is refused or told, as the mode has it. -/
theorem Reflects.write_clashing (h : l.Reflects ws) (hm : l.mode ≠ .overwrite) {p : Path}
    {v : Input} {a : Write} (ha : Write.last? p ws = some a)
    (hc : a.Clashes ⟨l.phase, p, v⟩) :
    l.write p v =
      let l' : Ledger := { l with conflicts := l.conflicts ++ [p] }
      if l.mode = .error then (l', [], .error (.conflict p a.value v))
      else (l'.put p v, [.inputReplaced l.phase.name a.phase.name a.value v p], .ok ()) := by
  unfold write
  rw [h.rival?_eq hm ha, h.entries, ha]
  have hp : a.phase ≠ l.phase := hc.1
  have hv : a.value ≠ v := hc.2
  simp [hp, hv]

end Ledger

namespace Path

/-- What is staged at the location comes to lie at its normal form beneath the directory. -/
def Admits (dir location : Path) : Prop :=
  destination (some (.ofPath dir)) (.ofPath location) = .ok (dir / location).normalize

/-- A location that is accepted beneath a directory lies where the two lead together. -/
theorem admits_of_destination {dir location d : Path} (hdir : dir.Clean)
    (h : destination (some (.ofPath dir)) (.ofPath location) = .ok d) :
    d = (dir / location).normalize ∧ dir.Admits location := by
  obtain ⟨-, -, dir', hb, -, hd⟩ := destination_eq_ok_iff.mp h
  obtain ⟨rfl, -⟩ := baseDirectory_ofPath hdir hb
  obtain rfl : d = (dir' / location).normalize := hd
  exact ⟨rfl, h⟩

end Path

namespace Script.Step

/-- What steps ask to be staged, in order. -/
def asks : List Script.Step → List (Path × Input)
  | [] => []
  | .stage location v :: rest => (location, v) :: asks rest
  | _ :: rest => asks rest

def next (phase : Phase) : Script.Step → Phase
  | enter phase' => phase'
  | _ => phase

def writes (dir : Path) (phase : Phase) : Script.Step → List Write
  | stage location v => [⟨phase, (dir / location).normalize, v⟩]
  | _ => []

def history (dir : Path) (phase : Phase) : List Script.Step → List Write
  | [] => []
  | s :: rest => s.writes dir phase ++ history dir (s.next phase) rest

theorem asks_append (ss rest : List Script.Step) : asks (ss ++ rest) = asks ss ++ asks rest := by
  induction ss with
  | nil => rfl
  | cons s ss ih => cases s <;> simp [asks, ih]

/-- Steps that stay in one phase write what they ask for during that phase. -/
theorem history_append {ss : List Script.Step} (h : ∀ phase, enter phase ∉ ss) (dir : Path)
    (phase : Phase) (rest : List Script.Step) :
    history dir phase (ss ++ rest) =
      (asks ss).map (Write.of dir phase) ++ history dir phase rest := by
  induction ss with
  | nil => rfl
  | cons s ss ih =>
    have ih := ih fun phase hm => h phase (List.mem_cons_of_mem _ hm)
    cases s with
    | enter phase' => exact absurd (List.mem_cons_self ..) (h phase')
    | tell events => simpa [history, writes, next, asks, Write.of] using ih
    | stage location v => simpa [history, writes, next, asks, Write.of] using ih

/-- Whatever is written was asked for, at a location that leads there. -/
theorem mem_history {dir : Path} {phase : Phase} {ss : List Script.Step} {w : Write}
    (h : w ∈ history dir phase ss) :
    ∃ location, (location, w.value) ∈ asks ss ∧ w.path = (dir / location).normalize := by
  induction ss generalizing phase with
  | nil => cases h
  | cons s rest ih =>
    rw [history, List.mem_append] at h
    cases s with
    | stage location v =>
      rcases h with h | h
      · obtain rfl := List.mem_singleton.mp h
        exact ⟨location, by simp [asks], rfl⟩
      · obtain ⟨location', ha, hp⟩ := ih h
        exact ⟨location', by simp [asks, ha], hp⟩
    | tell events => exact ih (h.resolve_left (List.not_mem_nil))
    | enter phase' => exact ih (h.resolve_left (List.not_mem_nil))

/-! ## Steps that pass -/

/-- That the later of two clashing writes has been let pass: nobody asked, or it was told. -/
def Excused (p : Progress) (a w : Write) : Prop :=
  p.ledger.mode = .overwrite ∨ p.ledger.mode = .warn ∧
    Event.inputReplaced w.phase.name a.phase.name a.value w.value w.path ∈ p.log

/-- What steps have done that were all carried out, after a history of writes. -/
structure Passed (dir : Path) (ws : List Write) (p : Progress) (ss : List Script.Step)
    (p' : Progress) : Prop where
  admits : ∀ w ∈ asks ss, dir.Admits w.1
  mode : p'.ledger.mode = p.ledger.mode
  phase : p'.ledger.phase = ss.foldl next p.ledger.phase
  log : p.log ⊆ p'.log
  reflects : p'.ledger.Reflects (ws ++ history dir p.ledger.phase ss)
  excused : ∀ c ∈ Write.clashes ws (history dir p.ledger.phase ss), Excused p' c.1 c.2

variable {dir : Path} {p p' p'' : Progress} {ws : List Write}

theorem Passed.nil (h : p.ledger.Reflects ws) : Passed dir ws p [] p where
  admits := by simp [asks]
  mode := rfl
  phase := rfl
  log := List.Subset.refl _
  reflects := by simpa [history] using h
  excused := by simp [history, Write.clashes]

/-- What excused a clash once excuses it later on. -/
theorem Excused.mono {a w : Write} (h : Excused p a w) (hm : p'.ledger.mode = p.ledger.mode)
    (hl : p.log ⊆ p'.log) : Excused p' a w := by
  rcases h with h | ⟨h, ht⟩
  · exact .inl (hm.trans h)
  · exact .inr ⟨hm.trans h, hl ht⟩

/-- Steps that were passed are passed together. -/
theorem Passed.cons {s : Script.Step} {rest : List Script.Step} (h : Passed dir ws p [s] p')
    (h' : Passed dir (ws ++ s.writes dir p.ledger.phase) p' rest p'') :
    Passed dir ws p (s :: rest) p'' where
  admits w hw := by
    rw [← List.singleton_append, asks_append, List.mem_append] at hw
    exact hw.elim (h.admits w) (h'.admits w)
  mode := h'.mode.trans h.mode
  phase := by rw [h'.phase, h.phase]; rfl
  log := List.Subset.trans h.log h'.log
  reflects := by
    have hp : p'.ledger.phase = s.next p.ledger.phase := h.phase
    rw [history, ← List.append_assoc, ← hp]
    exact h'.reflects
  excused c hc := by
    have hp : p'.ledger.phase = s.next p.ledger.phase := h.phase
    have hs : history dir p.ledger.phase [s] = s.writes dir p.ledger.phase := List.append_nil _
    rw [history, Write.clashes_append, List.mem_append, ← hp] at hc
    rcases hc with hc | hc
    · exact (h.excused c (hs ▸ hc)).mono h'.mode h'.log
    · exact h'.excused c hc

/-- The one step that writes: its location is admitted, and its clash, if any, is excused. -/
theorem passed_stage (hdir : dir.Clean) {location : Path} {v : Input}
    (hr : (stage location v).run (some (.ofPath dir)) p = (.ok (), p'))
    (h : p.ledger.Reflects ws) : Passed dir ws p [stage location v] p' := by
  cases hd : Path.destination (some (.ofPath dir)) (.ofPath location) with
  | error e => rw [run_stage_error hd] at hr; cases hr
  | ok d =>
    obtain ⟨rfl, hadm⟩ := Path.admits_of_destination hdir hd
    rw [run_stage_ok hd] at hr
    have hput := h.put (dir / location).normalize v
    by_cases hc : p.ledger.mode = .overwrite ∨
        ∀ a ∈ Write.last? (dir / location).normalize ws,
          ¬ a.Clashes ⟨p.ledger.phase, (dir / location).normalize, v⟩
    · rw [h.write_eq_put hc] at hr
      obtain rfl := (Prod.mk.inj hr).2
      refine ⟨by simpa [asks] using hadm, rfl, rfl, List.subset_append_left _ _,
        by simpa [history, writes] using hput, ?_⟩
      rintro ⟨a, w⟩ hm
      obtain ⟨ha, hcl, rfl⟩ := Write.mem_clashes_single.mp hm
      exact hc.elim .inl fun hn => absurd hcl (hn a ha)
    · simp only [not_or, Classical.not_forall, Classical.not_not, exists_prop] at hc
      obtain ⟨hm, a, ha, hcl⟩ := hc
      rw [h.write_clashing hm ha hcl] at hr
      -- In mode `error` the step would not have passed, so the mode is `warn`.
      by_cases herr : p.ledger.mode = .error
      · simp [herr] at hr
      · rw [if_neg herr] at hr
        obtain rfl := (Prod.mk.inj hr).2
        have hwarn : p.ledger.mode = .warn := by cases hp : p.ledger.mode <;> simp_all
        refine ⟨by simpa [asks] using hadm, rfl, rfl, List.subset_append_left _ _,
          by simpa [history, writes] using ⟨hput.entries, hput.writers⟩, ?_⟩
        rintro ⟨a', w⟩ hmem
        obtain ⟨ha', -, rfl⟩ := Write.mem_clashes_single.mp hmem
        obtain rfl := Option.some.inj (ha.symm.trans ha')
        exact .inr ⟨hwarn, by simp⟩

theorem passed_step (hdir : dir.Clean) {s : Script.Step}
    (hr : s.run (some (.ofPath dir)) p = (.ok (), p')) (h : p.ledger.Reflects ws) :
    Passed dir ws p [s] p' := by
  cases s with
  | stage location v => exact passed_stage hdir hr h
  | tell events =>
    obtain rfl := (Prod.mk.inj hr).2
    exact ⟨by simp [asks], rfl, rfl, List.subset_append_left _ _,
      by simpa [history, writes] using h, by simp [history, writes, Write.clashes]⟩
  | enter phase =>
    obtain rfl := (Prod.mk.inj hr).2
    exact ⟨by simp [asks], rfl, rfl, List.Subset.refl _,
      by simpa [history, writes] using ⟨h.entries, h.writers⟩,
      by simp [history, writes, Write.clashes]⟩

/-- By induction on the steps. What carries it is that the ledger reflects all writes so far. -/
theorem passed_of_runAll (hdir : dir.Clean) {ss : List Script.Step}
    (hr : runAll (some (.ofPath dir)) ss p = (.ok (), p')) (h : p.ledger.Reflects ws) :
    Passed dir ws p ss p' := by
  induction ss generalizing p ws with
  | nil =>
    obtain rfl := (Prod.mk.inj hr).2
    exact .nil h
  | cons s rest ih =>
    unfold runAll at hr
    rcases hs : s.run (some (.ofPath dir)) p with ⟨_ | _, p₁⟩ <;> rw [hs] at hr
    · cases hr
    · have h₁ := passed_step hdir hs h
      exact h₁.cons (ih hr (by simpa [history] using h₁.reflects))

/-- In silence, all that can stop a run is a location that is not admitted. -/
theorem runAll_of_admits {ss : List Script.Step} (hm : p.ledger.mode = .overwrite)
    (h : ∀ w ∈ asks ss, dir.Admits w.1) :
    ∃ p', runAll (some (.ofPath dir)) ss p = (.ok (), p') := by
  induction ss generalizing p with
  | nil => exact ⟨p, rfl⟩
  | cons s rest ih =>
    cases s with
    | tell events => exact ih hm h
    | enter phase => exact ih hm h
    | stage location v =>
      have hadm : dir.Admits location := h (location, v) (by simp [asks])
      unfold runAll
      rw [run_stage_ok hadm, Ledger.write_of_overwrite hm]
      exact ih hm fun w hw => h w (by simp [asks, hw])

end Script.Step

/-- In silence a script is played to its end exactly if it has one, and all that it asks for is
admitted. -/
theorem Script.play_isOk_iff {α : Type} {s : Script α} {dir : Path} {p : Progress}
    {ws : List Write} (hdir : dir.Clean) (hm : p.ledger.mode = .overwrite)
    (h : p.ledger.Reflects ws) :
    (∃ a p', s.play (some (.ofPath dir)) p = (.ok a, p')) ↔
      (∃ a, s.outcome = .ok a) ∧ ∀ w ∈ Step.asks s.steps, dir.Admits w.1 := by
  constructor
  · rintro ⟨a, p', hp⟩
    obtain ⟨hr, ha⟩ := play_eq_ok_iff.mp hp
    exact ⟨⟨a, ha⟩, (Step.passed_of_runAll hdir hr h).admits⟩
  · rintro ⟨⟨a, ha⟩, hadm⟩
    obtain ⟨p', hr⟩ := Step.runAll_of_admits hm hadm
    exact ⟨a, p', play_eq_ok_iff.mpr ⟨hr, ha⟩⟩

namespace Engine

/-- The steps of a call that returns have all passed, beneath the directory it accepted.
What it returns is in the ledger they left, and all they told is in its log. -/
theorem passed_of_map {e : Engine} {action : Action} {x : Expander} {base : Option Spelling}
    {metadata : Metadata} {result : List (Path × Input)}
    (h : (e.map action x base metadata).1 = .ok result) :
    ∃ dir p, Path.baseDirectory base = .ok dir ∧
      Script.Step.Passed dir [] e.start (e.script action x metadata).steps p ∧
      (∃ counts, (e.script action x metadata).outcome = .ok counts) ∧
      result = p.ledger.entries.sorted ∧ p.log ⊆ (e.map action x base metadata).2 := by
  obtain ⟨dir, counts, p, hb, hplay, rfl⟩ := map_eq_ok_iff.mp h
  obtain ⟨hr, hok⟩ := Script.play_eq_ok_iff.mp hplay
  refine ⟨dir, p, hb, Script.Step.passed_of_runAll (Path.baseDirectory_clean hb) hr
    (Ledger.reflects_nil _), ⟨counts, hok⟩, rfl, ?_⟩
  rw [map_of_play hb hplay]
  exact List.subset_append_left _ _

end Engine

end InputStaging
