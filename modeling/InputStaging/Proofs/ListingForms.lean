import InputStaging.Listing
import InputStaging.Proofs.Path.Order
import InputStaging.Proofs.Path.Text
import Mathlib.Data.List.Forall2

/-!
# The two forms of a listing

Both forms go through the same entries in the same order, and that order depends on nothing but the
entries: it is the one in which the paths increase. So neither form shows in which order a mapping
was filled, and the text can be written from the records alone. The records have one condition that
the text has not: every artifact has to be of a known kind.
-/

namespace InputStaging

namespace Input

/-- No artifact of a kind from outside the known three. -/
def Known : Input → Prop
  | artifact a => a.kind ∈ Kind.known
  | treeFile _ | location _ | empty => True

instance : (v : Input) → Decidable v.Known
  | artifact a => inferInstanceAs (Decidable (a.kind ∈ Kind.known))
  | treeFile _ | location _ | empty => inferInstanceAs (Decidable True)

theorem description_eq_ok_iff {v : Input} {kind : String} :
    v.description = .ok kind ↔ v.Known ∧ kind = v.label := by
  cases v with
  | treeFile f => simp [description, Known, eq_comm]
  | location p => simp [description, Known, eq_comm]
  | empty => simp [description, Known, eq_comm]
  | artifact a =>
    obtain ⟨path, kind'⟩ := a
    cases kind' with
    | file => simp [description, Known, Kind.known, eq_comm]
    | tree => simp [description, Known, Kind.known, eq_comm]
    | fileset => simp [description, Known, Kind.known, eq_comm]
    | other label => simp [description, Known, Kind.known]

end Input

theorem Path.text_ne_empty (p : Path) : p.text ≠ "" := by
  intro h
  have hread : p = ofString "" := by rw [← h, ofString_text]
  have hhere : p.text = "." := by rw [hread]; rfl
  rw [hhere] at h
  exact absurd h (by decide)

namespace Listing

variable {t t' : Table Path Input} {es : List (Path × Input)} {e : Path × Input} {r : Row}

/-- The entries of a mapping, each of them once, with their paths increasing part by part. -/
structure Enumerates (es : List (Path × Input)) (t : Table Path Input) : Prop where
  entries : es.Perm t.entries
  once : (es.map Prod.fst).Nodup
  increasing : es.Pairwise fun a b => a.1.rank < b.1.rank

theorem enumerates_sorted (t : Table Path Input) : Enumerates t.sorted t where
  entries := List.mergeSort_perm _ _
  once := ((List.mergeSort_perm _ _).map _).nodup_iff.mpr t.nodup
  increasing := t.sorted_pairwise

/-- What the record of an entry says. -/
structure Shows (e : Path × Input) (r : Row) : Prop where
  path : r.path = e.1.text
  kind : e.2.description = .ok r.kind
  source : r.source = e.2.execPath?.map Path.text
  /-- Nothing but the placeholder is without source. -/
  unsourced : r.source = none ↔ e.2 = .empty
  /-- So where a line shows no source, there is none. -/
  nonempty : r.source ≠ some ""

theorem shows_row (h : e.2.Known) : Shows e (row e) where
  path := rfl
  kind := Input.description_eq_ok_iff.mpr ⟨h, rfl⟩
  source := rfl
  unsourced := by
    obtain ⟨d, v⟩ := e
    cases v <;> simp [row, Input.source?, Input.execPath?]
  nonempty := by
    intro hempty
    obtain ⟨p, -, hp⟩ := Option.map_eq_some_iff.mp hempty
    exact Path.text_ne_empty p hp

/-- The line that a record makes. -/
def Row.line (r : Row) : String := r.path ++ " " ++ r.source.getD "" ++ "\n"

/-- That an entry can be described. -/
def describe (e : Path × Input) : Except Failure Unit := do let _ ← e.2.description

theorem forM_describe_iff (es : List (Path × Input)) :
    es.forM describe = .ok () ↔ ∀ e ∈ es, e.2.Known := by
  induction es with
  | nil => simp [List.forM, pure, Except.pure]
  | cons e rest ih =>
    have hfirst : (∃ kind, e.2.description = .ok kind) ↔ e.2.Known := by
      simp [Input.description_eq_ok_iff]
    have hstep : (e :: rest).forM describe = describe e >>= fun _ => rest.forM describe := rfl
    rw [hstep, List.forall_mem_cons, ← ih, ← hfirst, describe]
    cases e.2.description with
    | error failure => simp [bind, Except.bind]
    | ok kind => simp [bind, Except.bind, pure, Except.pure]

/-- There are records exactly if every kind is known. -/
theorem described_eq_ok_iff {rs : List Row} :
    described t = .ok rs ↔ (∀ e ∈ t.entries, e.2.Known) ∧ rs = rows t := by
  have hknown : (∀ e ∈ t.sorted, e.2.Known) ↔ ∀ e ∈ t.entries, e.2.Known := by
    have hperm := (enumerates_sorted t).entries
    exact ⟨fun h e he => h e (hperm.mem_iff.mpr he), fun h e he => h e (hperm.mem_iff.mp he)⟩
  have hrows : described t = t.sorted.forM describe >>= fun _ => .ok (rows t) := rfl
  rw [← hknown, ← forM_describe_iff, hrows]
  cases t.sorted.forM describe with
  | error failure => simp [bind, Except.bind]
  | ok u => simp [bind, Except.bind, eq_comm]

/-- Neither form depends on the order in which a mapping was filled. Both enumerate its entries,
and the text is what the records say, line by line. -/
theorem forms_agree (t t' : Table Path Input) (h : t'.entries.Perm t.entries) :
    text t' = text t ∧ described t' = described t ∧
      ((∃ rs, described t = .ok rs) ↔ ∀ e ∈ t.entries, e.2.Known) ∧
      ∃ es, Enumerates es t ∧ text t = String.join (es.map line) ∧
        ∀ rs, described t = .ok rs →
          List.Forall₂ Shows es rs ∧ text t = String.join (rs.map Row.line) := by
  have hsorted : t'.sorted = t.sorted := Table.sorted_of_perm h
  have htext : text t' = text t := by rw [text, text, hsorted]
  have hdescribed : described t' = described t := by
    unfold described rows
    rw [hsorted]
  refine ⟨htext, hdescribed, ?_, t.sorted, enumerates_sorted t, rfl, ?_⟩
  · simp [described_eq_ok_iff]
  · intro rs hrs
    obtain ⟨hknown, rfl⟩ := described_eq_ok_iff.mp hrs
    have hperm := (enumerates_sorted t).entries
    constructor
    · rw [rows, List.forall₂_map_right_iff, List.forall₂_same]
      intro e he
      exact shows_row (hknown e (hperm.mem_iff.mp he))
    · rw [rows, List.map_map]
      rfl

/-- The order of the paths, which is not that of their spellings. -/
def ordered : Table Path Input :=
  .ofList [(.ofString "a/x", .location .here), (.ofString "a-", .empty),
    (.ofString "b", .artifact { execPath := .ofString "/c" })]

def shuffled : Table Path Input :=
  .ofList [(.ofString "b", .artifact { execPath := .ofString "/c" }),
    (.ofString "a/x", .location .here), (.ofString "a-", .empty)]

theorem forms_agree_shuffled :
    shuffled.entries.Perm ordered.entries ∧ text shuffled = "a/x .\na- \nb /c\n" ∧
      ∃ rs, described shuffled = .ok rs ∧ text shuffled = String.join (rs.map Row.line) ∧
        rs = [⟨"a/x", "path", some "."⟩, ⟨"a-", "empty", none⟩, ⟨"b", "file", some "/c"⟩] := by
  have hperm : shuffled.entries.Perm ordered.entries := by decide +kernel
  have hsorted : ordered.sorted = ordered.entries :=
    Table.sorted_of_pairwise (by decide)
  obtain ⟨htext, hdescribed, -, es, -, -, hlines⟩ := forms_agree ordered shuffled hperm
  have hknown : ∀ e ∈ ordered.entries, e.2.Known := by decide
  have hrows : described ordered = .ok (rows ordered) := described_eq_ok_iff.mpr ⟨hknown, rfl⟩
  refine ⟨hperm, ?_, rows ordered, hdescribed.trans hrows, ?_, ?_⟩
  · rw [htext, text, hsorted]
    decide +kernel
  · rw [htext]
    exact (hlines _ hrows).2
  · rw [rows, hsorted]
    decide +kernel

end Listing

end InputStaging
