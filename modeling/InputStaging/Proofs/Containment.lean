import InputStaging.Proofs.History
import InputStaging.Proofs.Path.Order

/-!
# Containment

Whatever is declared, and however its locations are joined, what a call returns lies
beneath the base directory. The join at the base is judged by its spelling alone; that
nothing leaves the directory afterwards is a fact about normal forms.
-/

namespace InputStaging

/-- What steps leave behind lies beneath the directory that they were carried out in. -/
theorem Script.Step.Passed.contained {dir : Path} (hdir : dir.Clean) {p p' : Progress}
    {ss : List Script.Step} (h : Script.Step.Passed dir [] p ss p') {d : Path} {v : Input}
    (hv : p'.ledger.entries.get? d = some v) :
    d.Clean ∧ d.segments ≠ [] ∧ '\x00' ∉ d.text.toList ∧ dir.segments <+: d.segments := by
  rw [h.reflects.entries, Option.map_eq_some_iff] at hv
  obtain ⟨w, hw, -⟩ := hv
  obtain ⟨hmem, rfl⟩ := Write.mem_of_last? hw
  obtain ⟨location, ha, hp⟩ := Script.Step.mem_history hmem
  rw [hp]
  exact Path.destination_contained hdir (h.admits (location, w.value) ha)

/-- Every path that a call returns is relative, not empty, without `..` and without NUL, and
lies beneath the accepted base directory. -/
theorem Engine.map_contained (e : Engine) (action : Action) (x : Expander)
    (base : Option Spelling) (metadata : Metadata) (result : List (Path × Input))
    (h : (e.map action x base metadata).1 = .ok result) :
    ∃ dir, Path.baseDirectory base = .ok dir ∧ ∀ entry ∈ result,
      entry.1.isAbsolute = false ∧ entry.1.segments ≠ [] ∧ ".." ∉ entry.1.segments ∧
      '\x00' ∉ entry.1.text.toList ∧ dir.segments <+: entry.1.segments := by
  obtain ⟨dir, p, hb, hpass, -, rfl, -⟩ := passed_of_map h
  refine ⟨dir, hb, ?_⟩
  rintro ⟨d, v⟩ hmem
  obtain ⟨hclean, hne, hnul, hprefix⟩ :=
    hpass.contained (Path.baseDirectory_clean hb) (Table.mem_sorted_iff.mp hmem)
  exact ⟨hclean.relative, hne, hclean.noUp, hnul, hprefix⟩

namespace Engine

/-- Only tells when phases disagree, and leaves out links that escape. -/
def lenient : Engine := ⟨⟨.ofString "/exec", .ignore, 2, by decide⟩, true, .warn⟩

def tree : Artifact := { execPath := .ofString "t", kind := .tree }

def fileset : Artifact := { execPath := .ofString "z", kind := .fileset }

/-- Locations of every kind, most of which go up before they go down again. -/
def windings : Action where
  inputs := [{ execPath := .ofString "a/../b" }, tree]
  runfiles := .ofList [(.ofString "r", .ofList [(.ofString "../b", none),
    (.ofString "f", some fileset), (.ofString "t", some tree)])]
  filesets := .ofList [(fileset,
    [⟨.ofString "n", some "/s", false⟩, ⟨.ofString "o", some "x/../n", false⟩])]

/-- Every tree has one member, which stands beside it. -/
def expander : Expander :=
  ⟨fun _ => .ok [⟨tree, .ofString "../m"⟩], fun _ => .ok [⟨.ofString "k", none, false⟩]⟩

theorem windings_contained :
    ∃ result, (lenient.map windings expander (some (.ofString "out/x/.."))
        fun _ => .ok .file).1 = .ok result ∧
      result.map (·.1.text) = ["out/b", "out/m", "out/r/f/k", "out/r/m", "out/z/n", "out/z/o"] ∧
      ∀ entry ∈ result, ".." ∉ entry.1.segments ∧ ["out"] <+: entry.1.segments := by
  have hok : (lenient.map windings expander (some (.ofString "out/x/.."))
      fun _ => .ok .file).1.toOption.isSome = true := by decide
  have hb : (Path.baseDirectory (some (.ofString "out/x/.."))).toOption.map (·.segments) =
      some ["out"] := by decide
  cases h : (lenient.map windings expander (some (.ofString "out/x/.."))
      fun _ => .ok .file).1 with
  | error failure => simp [h, Except.toOption] at hok
  | ok result =>
    obtain ⟨dir, hdir, hall⟩ := map_contained _ _ _ _ _ result h
    simp only [hdir, Except.toOption, Option.map_some, Option.some.injEq] at hb
    refine ⟨result, rfl, ?_, fun entry hentry => ?_⟩
    · rw [result_of_map h, Table.sorted_of_pairwise (by decide)]
      decide
    · obtain ⟨-, -, hup, -, hprefix⟩ := hall entry hentry
      exact ⟨hup, hb ▸ hprefix⟩

end Engine

end InputStaging
