import InputStaging.Proofs.Fileset.Whole
import InputStaging.Proofs.Requests
import Mathlib.Data.List.Dedup

/-!
# Counts

Whatever is staged, directly, from a runfiles tree or from filesets, is written request by request,
and the number that is returned is the number of those writes. How many entries they leave in a
table that was empty is another matter, as one destination can be written more than once. Only the entries
of a single fileset are sure to keep apart.
-/

namespace InputStaging

namespace Table

variable {κ α : Type} [DecidableEq κ]

/-- The keys of a table are those of the list that it was filled from. -/
theorem mem_keys_ofList {l : List (κ × α)} {k : κ} : k ∈ (ofList l).keys ↔ k ∈ l.map Prod.fst := by
  have habsent : k ∉ (ofList l).keys ↔ k ∉ l.map Prod.fst := by
    rw [← get?_eq_none_iff, get?_ofList, find_eq_none_iff, List.map_reverse, List.mem_reverse]
  exact not_iff_not.mp habsent

theorem keys_ofList_perm (l : List (κ × α)) : (ofList l).keys.Perm (l.map Prod.fst).dedup := by
  apply (List.perm_ext_iff_of_nodup (nodup_keys _) (List.nodup_dedup _)).mpr
  intro k
  rw [List.mem_dedup, mem_keys_ofList]

/-- A list of writes leaves as many entries as it has different keys. -/
theorem size_ofList (l : List (κ × α)) : (ofList l).size = (l.map Prod.fst).dedup.length := by
  rw [← (keys_ofList_perm l).length_eq]
  exact (List.length_map _).symm

/-- There are no more entries than writes. -/
theorem size_ofList_le (l : List (κ × α)) : (ofList l).size ≤ l.length := by
  have hle := (List.dedup_sublist (l.map Prod.fst)).length_le
  rwa [← size_ofList, List.length_map] at hle

/-- There are as many exactly if no key was written twice. -/
theorem size_ofList_eq_iff (l : List (κ × α)) :
    (ofList l).size = l.length ↔ (l.map Prod.fst).Nodup := by
  rw [size_ofList, ← List.length_map Prod.fst, ← List.dedup_eq_self]
  constructor
  · exact (List.dedup_sublist _).eq_of_length
  · intro h
    rw [h]

end Table

/-- What is staged, and counted, by one call. -/
inductive Load where
  | inputs (inputs : List Artifact)
  | runfiles (runfiles : Runfiles)
  | filesets (filesets : Filesets)
  | links (links : List Link) (mount : Spelling)

namespace Load

variable {e : Engine} {metadata : Metadata} {x : Expander} {base : Option Spelling}
  {load : Load}

def stage (e : Engine) (metadata : Metadata) (x : Expander) (base : Option Spelling) :
    Load → Staging Nat
  | inputs artifacts => Engine.stageInputs x base artifacts
  | runfiles tree => e.stageRunfiles metadata x base tree
  | filesets mounts => e.stageFilesets base mounts
  | links ls mount => e.resolver.stage ls mount base

/-- What is asked for, read off what is staged. -/
def requests (e : Engine) (x : Expander) : Load → List (Path × Input)
  | inputs artifacts => artifacts.flatMap (Engine.inputRequests x)
  | runfiles tree => tree.entries.flatMap fun root =>
      root.2.entries.flatMap fun entry => e.runfileRequests x (root.1 / entry.1) entry.2
  | filesets mounts => mounts.entries.flatMap fun mount =>
      e.resolver.requests mount.2 mount.1.execPath
  | links ls mount => e.resolver.requestsAt ls mount

def script (e : Engine) (metadata : Metadata) (x : Expander) : Load → Script Nat
  | inputs artifacts => .sum (Engine.inputScript x) artifacts
  | runfiles tree => .sum (e.rootScript metadata x) tree.entries
  | filesets mounts => .sum e.mountScript mounts.entries
  | links ls mount => e.resolver.scriptAt ls mount

theorem play_script (e : Engine) (metadata : Metadata) (x : Expander) (base : Option Spelling)
    (load : Load) : (load.script e metadata x).play base = load.stage e metadata x base := by
  cases load with
  | inputs artifacts => exact Engine.play_inputs x artifacts base
  | runfiles tree => exact e.play_roots metadata x tree.entries base
  | filesets mounts => exact e.play_mounts mounts.entries base
  | links ls mount => exact e.resolver.play_scriptAt ls mount base

theorem tallies_script (e : Engine) (metadata : Metadata) (x : Expander) (load : Load) :
    (load.script e metadata x).Tallies (load.requests e x) := by
  cases load with
  | inputs artifacts => exact Engine.tallies_inputs x artifacts
  | runfiles tree => exact Engine.tallies_roots tree
  | filesets mounts => exact Engine.tallies_mounts mounts
  | links ls mount => exact e.resolver.tallies_scriptAt ls mount

/-- How a call has come from `p` to `p'` that has returned `n`, in terms of the writes it made. -/
structure Counted (load : Load) (e : Engine) (metadata : Metadata) (x : Expander)
    (base : Option Spelling) (p p' : Progress) (n : Nat) (made : List (Path × Input)) :
    Prop where
  /-- The call is a run of steps, whatever it is run on, and these ask for the requests and for
  nothing else. -/
  steps : ∃ s : Script Nat, s.play base = load.stage e metadata x base ∧ s.outcome = .ok n ∧
    Script.Step.asks s.steps = load.requests e x
  /-- Each request has been written once, in order, at its destination. -/
  placed : List.Forall₂ (Placed base) (load.requests e x) made
  written : p'.ledger.entries = made.foldl (fun t w => t.insert w.1 w.2) p.ledger.entries
  counted : made.length = n

/-- Whatever is staged, its count is the number of the writes that it made. -/
theorem exists_counted {p p' : Progress} {n : Nat} (hplain : p.ledger.mode = .overwrite)
    (h : (load.stage e metadata x base).run.run p = (.ok n, p')) :
    ∃ made, load.Counted e metadata x base p p' n made := by
  have hplay : (load.script e metadata x).play base p = (.ok n, p') := by
    rw [play_script]
    exact h
  obtain ⟨hrun, hn⟩ := Script.play_eq_ok_iff.mp hplay
  have htallies := tallies_script e metadata x load
  have hasks := (htallies.asks n hn).1
  obtain ⟨made, hplaced, hwritten⟩ := exists_placed_of_runAll hplain hrun
  rw [hasks] at hplaced
  have hlength : made.length = n := by
    rw [htallies.counts n hn, hplaced.length_eq]
  exact ⟨made, ⟨_, play_script e metadata x base load, hn, hasks⟩, hplaced, hwritten, hlength⟩

end Load

/-- Clean locations that differ are written at destinations that differ. -/
theorem nodup_of_placed {base : Option Spelling} {ws made : List (Path × Input)}
    (hplaced : List.Forall₂ (Placed base) ws made) (hclean : ∀ w ∈ ws, w.1.Clean)
    (hnodup : (ws.map Prod.fst).Nodup) : (made.map Prod.fst).Nodup := by
  induction hplaced with
  | nil => exact List.nodup_nil
  | @cons w d ws made hw hrest ih =>
    obtain ⟨hfirst, hothers⟩ := List.forall_mem_cons.mp hclean
    rw [List.map_cons, List.nodup_cons] at hnodup ⊢
    refine ⟨?_, ih hothers hnodup.2⟩
    intro hagain
    obtain ⟨d', hd', hsame⟩ := List.mem_map.mp hagain
    obtain ⟨w', hw', hdest⟩ := exists_write_of_placed hrest hd'
    have hdest' : Path.destination base (.ofPath w'.1) = .ok d.1 := by
      rw [← hsame]
      exact hdest.destination
    have heq : w.1 = w'.1 :=
      Path.eq_of_destination hfirst (hothers w' hw') hw.destination hdest'
    exact hnodup.1 (heq ▸ List.mem_map_of_mem hw')

theorem Resolver.requestsAt_apart (r : Resolver) (links : List Link) (mount : Spelling) :
    (∀ w ∈ r.requestsAt links mount, w.1.Clean) ∧
      ((r.requestsAt links mount).map Prod.fst).Nodup := by
  unfold requestsAt
  split
  next m hmanifest =>
    constructor
    · intro w hw
      obtain ⟨entry, hentry, rfl⟩ := List.mem_map.mp hw
      exact clean_of_manifest hmanifest entry hentry
    · have hkeys : (r.writes m).map Prod.fst = m.entries.keys := List.map_map
      rw [hkeys]
      exact m.entries.nodup_keys
  next =>
    constructor
    · intro w hw
      cases hw
    · exact List.nodup_nil

namespace Load

/-- On a plain table, a call that returns has counted the writes that it made. A table that was
empty holds as many entries then, or fewer if some destination was written twice. That does not
happen within one fileset. -/
theorem counts_writes (load : Load) (e : Engine) (metadata : Metadata) (x : Expander)
    (base : Option Spelling) (p p' : Progress) (n : Nat) (hplain : p.ledger.mode = .overwrite)
    (h : (load.stage e metadata x base).run.run p = (.ok n, p')) :
    ∃ made, load.Counted e metadata x base p p' n made ∧
      (p.ledger.entries = ∅ → p'.ledger.entries.size ≤ n ∧
        (p'.ledger.entries.size = n ↔ (made.map Prod.fst).Nodup)) ∧
      ∀ ls mount, load = .links ls mount → (made.map Prod.fst).Nodup ∧
        (p.ledger.entries = ∅ → p'.ledger.entries.size = n) := by
  obtain ⟨made, hcounted⟩ := exists_counted hplain h
  have hfresh : p.ledger.entries = ∅ → p'.ledger.entries.size ≤ n ∧
      (p'.ledger.entries.size = n ↔ (made.map Prod.fst).Nodup) := by
    intro hempty
    have htable : p'.ledger.entries = .ofList made := by
      rw [hcounted.written, hempty]
      rfl
    rw [htable, ← hcounted.counted]
    exact ⟨Table.size_ofList_le made, Table.size_ofList_eq_iff made⟩
  refine ⟨made, hcounted, hfresh, ?_⟩
  rintro ls mount rfl
  obtain ⟨hclean, hnodup⟩ := e.resolver.requestsAt_apart ls mount
  have happart : (made.map Prod.fst).Nodup := nodup_of_placed hcounted.placed hclean hnodup
  exact ⟨happart, fun hempty => (hfresh hempty).2.mpr happart⟩

/-- Two empty files that have one place, and a tree of one member. -/
def crowded : Load :=
  .runfiles (.ofList [(.ofString "r", .ofList [(.ofString "a", none), (.ofString "b/../a", none),
    (.ofString "t", some Engine.tree)])])

theorem crowded_counts_writes :
    ∃ p made, (crowded.stage Engine.lenient (fun _ => .ok .file) Engine.expander none).run.run {} =
        (.ok 3, p) ∧
      crowded.Counted Engine.lenient (fun _ => .ok .file) Engine.expander none {} p 3 made ∧
      p.ledger.entries.keys.map Path.text = ["r/a", "r/m"] ∧ ¬ (made.map Prod.fst).Nodup := by
  let staged := (crowded.stage Engine.lenient (fun _ => .ok .file) Engine.expander none).run.run {}
  have hok : staged.1 = .ok 3 := ok_of_toOption (by decide +kernel)
  have hkeys : staged.2.ledger.entries.keys.map Path.text = ["r/a", "r/m"] := by decide +kernel
  have hsize : staged.2.ledger.entries.size = 2 := by decide +kernel
  obtain ⟨made, hcounted, hfresh, -⟩ := counts_writes crowded Engine.lenient (fun _ => .ok .file)
    Engine.expander none {} staged.2 3 rfl (Prod.ext hok rfl)
  obtain ⟨-, hiff⟩ := hfresh rfl
  refine ⟨staged.2, made, Prod.ext hok rfl, hcounted, hkeys, ?_⟩
  intro happart
  have hthree := hiff.mpr happart
  rw [hsize] at hthree
  cases hthree

end Load

end InputStaging
