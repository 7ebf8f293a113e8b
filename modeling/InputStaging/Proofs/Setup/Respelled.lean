import InputStaging.Proofs.Setup.ClosedDescription
import Mathlib.Data.List.Nodup

/-!
# Respelled paths in descriptions

The keys of a document are texts, and what is loaded goes by paths, which have many spellings. Of
two entries beneath one runfiles root that are the same path the later one stands. Two roots that
are the same path are one as well, but there the later one takes the place of the earlier one with
all its entries. References go by their spelling, so that a reference which is not spelt as its
artifact was declared means a plain file.
-/

namespace InputStaging

namespace Table

variable {κ ι α β : Type} [DecidableEq κ] [DecidableEq ι]

theorem find_map (f : α → β) (k : κ) (l : List (κ × α)) :
    find k (l.map fun e => (e.1, f e.2)) = (find k l).map f := by
  induction l with
  | nil => rfl
  | cons e rest ih =>
    rw [List.map_cons, find, find]
    split
    · rfl
    · exact ih

theorem find_map_pair (i j : ι) (k : κ) (l : List (κ × α)) :
    find (i, k) (l.map fun e => ((j, e.1), e.2)) = if j = i then find k l else none := by
  induction l with
  | nil => simp [find]
  | cons e rest ih =>
    rw [List.map_cons, find, find, ih]
    by_cases hj : j = i
    · simp [hj]
    · simp [hj]

end Table

/-- What a tree holds at a path beneath a root. -/
def Runfiles.found? (t : Runfiles) (root relative : Path) : Option (Option Artifact) :=
  (t.get? root).bind (·.get? relative)

namespace Outline

variable {o : Outline} {α β : Type} {p root relative : Path} {s : String}

/-! ## Keys that are the same path -/

/-- The last value whose key is a spelling of the path. -/
def lastAt (entries : List (String × α)) (p : Path) : Option α :=
  Table.find p (entries.map fun e => (Path.ofString e.1, e.2)).reverse

theorem lastAt_cons (e : String × α) (rest : List (String × α)) (p : Path) :
    lastAt (e :: rest) p = (lastAt rest p).or (if Path.ofString e.1 = p then some e.2 else none) := by
  unfold lastAt
  rw [List.map_cons, List.reverse_cons, Table.find_append]
  rfl

theorem lastAt_eq_none_iff {entries : List (String × α)} :
    lastAt entries p = none ↔ p ∉ entries.map fun e => Path.ofString e.1 := by
  rw [lastAt, Table.find_eq_none_iff, List.map_reverse, List.mem_reverse, List.map_map]
  rfl

theorem mem_of_lastAt {entries : List (String × α)} {v : α} (h : lastAt entries p = some v) :
    ∃ e ∈ entries, Path.ofString e.1 = p ∧ e.2 = v := by
  obtain ⟨e, he, hpair⟩ := List.mem_map.mp (List.mem_reverse.mp (Table.mem_of_find h))
  exact ⟨e, he, Prod.mk.inj hpair⟩

theorem lastAt_of_mem {entries : List (String × α)} {e : String × α} (h : e ∈ entries)
    (hnodup : (entries.map fun e => Path.ofString e.1).Nodup) :
    lastAt entries (Path.ofString e.1) = some e.2 := by
  have hkeys : ((entries.map fun e => (Path.ofString e.1, e.2)).reverse.map Prod.fst).Nodup := by
    rw [List.map_reverse, List.nodup_reverse, List.map_map]
    exact hnodup
  rw [lastAt, Table.find_eq_some_iff hkeys, List.mem_reverse]
  exact List.mem_map_of_mem h

/-- In a table by paths, each path has what was last beside a spelling of it. -/
theorem get?_ofList_respelled (f : α → β) (entries : List (String × α)) (p : Path) :
    (Table.ofList (entries.map fun e => (Path.ofString e.1, f e.2))).get? p =
      (lastAt entries p).map f := by
  have hmap : (entries.map fun e => (Path.ofString e.1, f e.2)) =
      (entries.map fun e => (Path.ofString e.1, e.2)).map fun e => (e.1, f e.2) := by
    rw [List.map_map]
    rfl
  rw [Table.get?_ofList, hmap, ← List.map_reverse, Table.find_map, lastAt]

/-! ## Runfiles -/

/-- Of the roots that are the same path only the last one is in the tree. -/
theorem found?_runfilesTree (o : Outline) (root relative : Path) :
    o.runfilesTree.found? root relative =
      (lastAt o.runfiles root).bind fun entries =>
        (lastAt entries relative).map (Option.map o.lookup) := by
  let below (entries : List (String × Option String)) : Table Path (Option Artifact) :=
    .ofList (entries.map fun e => (Path.ofString e.1, e.2.map o.lookup))
  have htree : o.runfilesTree.get? root = (lastAt o.runfiles root).map below :=
    get?_ofList_respelled below o.runfiles root
  rw [Runfiles.found?, htree, Option.bind_map]
  refine congrArg _ (funext fun entries => ?_)
  exact get?_ofList_respelled (Option.map o.lookup) entries relative

/-- The runfiles of a document, entry by entry. -/
def listed (runfiles : List (String × List (String × Option String))) :
    List ((Path × Path) × Option String) :=
  runfiles.flatMap fun root =>
    root.2.map fun e => ((Path.ofString root.1, Path.ofString e.1), e.2)

/-- No entry is lost, unless to a later one at the same path beneath the same root. -/
def Lossless (o : Outline) (t : Runfiles) : Prop :=
  ∀ before e after, listed o.runfiles = before ++ e :: after →
    ∃ e' ∈ e :: after, e'.1 = e.1 ∧ t.found? e.1.1 e.1.2 = some (e'.2.map o.lookup)

theorem find_listed_eq_none {runfiles : List (String × List (String × Option String))}
    (h : lastAt runfiles root = none) :
    Table.find (root, relative) (listed runfiles).reverse = none := by
  rw [Table.find_eq_none_iff, List.map_reverse, List.mem_reverse]
  intro hin
  obtain ⟨e, he, hkey⟩ := List.mem_map.mp hin
  obtain ⟨r, hr, hbelow⟩ := List.mem_flatMap.mp he
  obtain ⟨q, -, rfl⟩ := List.mem_map.mp hbelow
  exact lastAt_eq_none_iff.mp h (List.mem_map.mpr ⟨r, hr, (Prod.mk.inj hkey).1⟩)

/-- What the last root has is what is listed last. -/
theorem find_listed_of_lastAt {runfiles : List (String × List (String × Option String))}
    {entries : List (String × Option String)} {source : Option String} {place : Path × Path}
    (hroot : lastAt runfiles place.1 = some entries)
    (hentry : lastAt entries place.2 = some source) :
    Table.find place (listed runfiles).reverse = some source := by
  obtain ⟨root, relative⟩ := place
  induction runfiles with
  | nil => cases hroot
  | cons first rest ih =>
    have hfirst : (first.2.map fun e => ((Path.ofString first.1, Path.ofString e.1), e.2)) =
        (first.2.map fun e => (Path.ofString e.1, e.2)).map
          fun e => ((Path.ofString first.1, e.1), e.2) := by
      rw [List.map_map]
      rfl
    rw [lastAt_cons] at hroot
    rw [listed, List.flatMap_cons, ← listed, List.reverse_append, Table.find_append, hfirst,
      ← List.map_reverse, Table.find_map_pair]
    cases hlater : lastAt rest root with
    | some later =>
      rw [hlater] at hroot
      rw [ih (hlater.trans hroot), Option.some_or]
    | none =>
      rw [hlater, Option.none_or] at hroot
      split at hroot
      next hsame =>
        obtain rfl := Option.some.inj hroot
        rw [find_listed_eq_none hlater, Option.none_or, if_pos hsame]
        exact hentry
      next => cases hroot

/-- What the tree of a document's runfiles holds. -/
structure KeepsRunfiles (o : Outline) (t : Runfiles) : Prop where
  /-- The last root that is the path, and beneath it the last entry that is. -/
  found : ∀ root relative, t.found? root relative =
    (lastAt o.runfiles root).bind fun entries =>
      (lastAt entries relative).map (Option.map o.lookup)
  /-- An entry is kept, or gives way to a later one in its place, exactly if the last root that is
  the same path as its own has an entry in its place. -/
  kept : ∀ before e after, listed o.runfiles = before ++ e :: after →
    ((∃ e' ∈ e :: after, e'.1 = e.1 ∧ t.found? e.1.1 e.1.2 = some (e'.2.map o.lookup)) ↔
      ∃ entries, lastAt o.runfiles e.1.1 = some entries ∧
        e.1.2 ∈ entries.map fun entry => Path.ofString entry.1)
  /-- Where no two roots are the same path, no entry is lost. -/
  lossless : (o.runfiles.map fun r => Path.ofString r.1).Nodup → o.Lossless t

/-- An entry in whose place the last root has one gives way to none but a later entry. -/
theorem exists_later_of_lastAt {before after : List ((Path × Path) × Option String)}
    {e : (Path × Path) × Option String} {entries : List (String × Option String)}
    (hsplit : listed o.runfiles = before ++ e :: after)
    (hroot : lastAt o.runfiles e.1.1 = some entries)
    (hplace : e.1.2 ∈ entries.map fun entry => Path.ofString entry.1) :
    ∃ e' ∈ e :: after, e'.1 = e.1 ∧
      o.runfilesTree.found? e.1.1 e.1.2 = some (e'.2.map o.lookup) := by
  cases hentry : lastAt entries e.1.2 with
  | none => exact absurd hplace (lastAt_eq_none_iff.mp hentry)
  | some source =>
    have hlast := find_listed_of_lastAt hroot hentry
    rw [hsplit, List.reverse_append, Table.find_append] at hlast
    cases hlater : Table.find e.1 (e :: after).reverse with
    | none =>
      refine absurd ?_ (Table.find_eq_none_iff.mp hlater)
      exact List.mem_map_of_mem (List.mem_reverse.mpr List.mem_cons_self)
    | some source' =>
      rw [hlater, Option.some_or] at hlast
      obtain rfl := Option.some.inj hlast
      refine ⟨(e.1, source'), List.mem_reverse.mp (Table.mem_of_find hlater), rfl, ?_⟩
      rw [found?_runfilesTree, hroot, Option.bind_some, hentry]
      rfl

theorem keepsRunfiles (o : Outline) : o.KeepsRunfiles o.runfilesTree := by
  constructor
  case found => exact found?_runfilesTree o
  case kept =>
    intro before e after hsplit
    constructor
    · rintro ⟨e', -, -, hfound⟩
      rw [found?_runfilesTree] at hfound
      obtain ⟨entries, hroot, hsource⟩ := Option.bind_eq_some_iff.mp hfound
      refine ⟨entries, hroot, Decidable.byContradiction fun hplace => ?_⟩
      rw [lastAt_eq_none_iff.mpr hplace] at hsource
      cases hsource
    · rintro ⟨entries, hroot, hplace⟩
      exact exists_later_of_lastAt hsplit hroot hplace
  case lossless =>
    intro hnodup before e after hsplit
    have he : e ∈ listed o.runfiles := by simp [hsplit]
    obtain ⟨r, hr, hbelow⟩ := List.mem_flatMap.mp he
    obtain ⟨q, hq, rfl⟩ := List.mem_map.mp hbelow
    exact exists_later_of_lastAt hsplit (lastAt_of_mem hr hnodup) (List.mem_map_of_mem hq)

/-! ## References -/

/-- The kind that is declared in this very spelling. -/
def declaredKind? (o : Outline) (s : String) : Option Kind := (o.artifacts.lookup s).map (·.kind)

/-- The kinds that are declared, by path, in whatever spelling. -/
def declarations (o : Outline) : List (Path × Kind) :=
  o.artifacts.map fun e => (Path.ofString e.1, e.2.kind)

/-- A reference to a path at which something is declared means something that is declared there. -/
def Honours (o : Outline) (s : String) : Prop :=
  Path.ofString s ∈ o.declarations.map Prod.fst →
    (Path.ofString s, (o.lookup s).kind) ∈ o.declarations

instance (o : Outline) (s : String) : Decidable (o.Honours s) :=
  inferInstanceAs (Decidable (_ → _))

theorem lookup_eq (o : Outline) (s : String) :
    o.lookup s = ⟨.ofString s, (o.declaredKind? s).getD .file⟩ := by
  unfold lookup declaredKind?
  cases o.artifacts.lookup s <;> rfl

theorem isFileset_lookup_iff :
    (o.lookup s).isFileset = true ↔ o.declaredKind? s = some .fileset := by
  rw [lookup_eq, Artifact.isFileset, decide_eq_true_iff]
  cases o.declaredKind? s <;> simp

theorem mem_declarations {kind : Kind} (h : o.declaredKind? s = some kind) :
    (Path.ofString s, kind) ∈ o.declarations := by
  obtain ⟨declared, hlookup, rfl⟩ := Option.map_eq_some_iff.mp h
  obtain ⟨before, after, hsplit, -⟩ := List.lookup_eq_some_iff.mp hlookup
  exact List.mem_map.mpr ⟨(s, declared), by simp [hsplit], rfl⟩

/-- Besides references that are spelt as declared, none is honoured at a path where nothing but
trees and filesets are declared. -/
theorem honours_iff :
    o.Honours s ↔ (o.declaredKind? s).isSome = true ∨
      Path.ofString s ∉ o.declarations.map Prod.fst ∨
        (Path.ofString s, .file) ∈ o.declarations := by
  unfold Honours
  rw [lookup_eq]
  cases hkind : o.declaredKind? s with
  | some kind => simp [mem_declarations hkind]
  | none =>
    simp only [Option.getD_none, Option.isSome_none, Bool.false_eq_true, false_or]
    exact Decidable.imp_iff_not_or

/-- The listed filesets are refused for the first that is not declared as one, and for nothing
else. -/
theorem mounts_eq_error_iff {paths : List String} {failure : SetupFailure} :
    o.mounts paths = .error failure ↔
      ∃ s, paths.find? (fun s => !(o.lookup s).isFileset) = some s ∧
        failure = .undeclaredFileset s := by
  induction paths with
  | nil => exact ⟨nofun, fun ⟨_, h, _⟩ => nomatch h⟩
  | cons path rest ih =>
    rw [List.find?_cons]
    rcases o.mounts_cons path rest with ⟨hfileset, links, -, hcons⟩ | ⟨hfileset, hcons⟩
    · rw [hcons, hfileset, Bool.not_true, ← ih]
      cases o.mounts rest <;> simp [Except.map]
    · rw [hcons, hfileset, Bool.not_false]
      simp [eq_comm]

/-- What becomes of the references of a document. -/
structure ReadsReferences (o : Outline) (outcome : Except SetupFailure Description) : Prop where
  /-- A reference means the path that it spells, of the kind that is declared in that spelling. -/
  meant : ∀ s, o.lookup s = ⟨.ofString s, (o.declaredKind? s).getD .file⟩
  inputs : ∀ desc, outcome = .ok desc → desc.action.inputs = o.inputs.map o.lookup
  runfiles : ∀ desc, outcome = .ok desc → ∀ root relative a,
    desc.action.runfiles.found? root relative = some (some a) →
    ∃ r ∈ o.runfiles, ∃ e ∈ r.2, ∃ s, e.2 = some s ∧ a = o.lookup s
  /-- It is honoured if it is spelt as declared, or if a file may be meant. -/
  honoured : ∀ s, o.Honours s ↔ (o.declaredKind? s).isSome = true ∨
    Path.ofString s ∉ o.declarations.map Prod.fst ∨ (Path.ofString s, .file) ∈ o.declarations
  /-- The first listed fileset that is not declared as one in this spelling is refused. Nothing
  else is. -/
  refused : ∀ failure, outcome = .error failure ↔
    ∃ s, o.filesets.find? (fun s => o.declaredKind? s ≠ some .fileset) = some s ∧
      failure = .undeclaredFileset s

end Outline

namespace Description

variable {fe : FrontEnd} {d : Document} {o : Outline} {desc : Description}

theorem ofDocument_of_outline (h : Outline.ofDocument d fe = .ok o) :
    ofDocument d fe = ofOutline o := by
  rw [ofDocument, h]
  rfl

theorem action_of_outline (h : ofOutline o = .ok desc) :
    desc.action.inputs = o.inputs.map o.lookup ∧ desc.action.runfiles = o.runfilesTree := by
  unfold ofOutline at h
  cases hm : o.mounts o.filesets with
  | error failure => simp [hm, bind, Except.bind] at h
  | ok mounts =>
    simp only [hm, bind, Except.bind, pure, Except.pure] at h
    obtain rfl := Except.ok.inj h
    exact ⟨rfl, rfl⟩

theorem ofOutline_eq_error_iff {failure : SetupFailure} :
    ofOutline o = .error failure ↔ o.mounts o.filesets = .error failure := by
  unfold ofOutline
  cases o.mounts o.filesets <;> simp [bind, Except.bind, pure, Except.pure]

/-- Whatever it is read with, a document that is loaded keeps its runfiles but for those of a root
that is listed again in another spelling. -/
theorem loads_runfiles (fe : FrontEnd) (d : Document) (desc : Description)
    (h : ofDocument d fe = .ok desc) :
    ∃ o, Outline.ofDocument d fe = .ok o ∧ o.KeepsRunfiles desc.action.runfiles := by
  rcases Outline.ofDocument_cases d fe with ⟨-, o, -, ho⟩ | ⟨failure, -, hf⟩
  · rw [ofDocument_of_outline ho] at h
    refine ⟨o, ho, ?_⟩
    rw [(action_of_outline h).2]
    exact o.keepsRunfiles
  · rw [ofDocument, hf] at h
    cases h

/-- One root in two spellings. In the first one a path is listed twice. -/
def tworoots : Document :=
  .mapping [(.text "runfiles", .mapping [
    (.text "r", .mapping [(.text "a", .text "x"), (.text "b", .text "v"), (.text "./b", .null)]),
    (.text "s", .mapping [(.text "a/", .text "x"), (.text "a", .text "z")]),
    (.text "r/", .mapping [(.text "b", .text "y")])])]

theorem runfiles_of_tworoots :
    ∃ desc o, ofDocument tworoots = .ok desc ∧ Outline.ofDocument tworoots = .ok o ∧
      o.KeepsRunfiles desc.action.runfiles ∧
      desc.action.runfiles.found? (.ofString "r") (.ofString "b") =
        some (some ⟨.ofString "y", .file⟩) ∧
      desc.action.runfiles.found? (.ofString "s") (.ofString "a") =
        some (some ⟨.ofString "z", .file⟩) ∧
      desc.action.runfiles.found? (.ofString "r") (.ofString "a") = none := by
  have hc : (ofDocument tworoots).toOption.map (fun desc =>
      (desc.action.runfiles.found? (.ofString "r") (.ofString "b"),
        desc.action.runfiles.found? (.ofString "s") (.ofString "a"),
        desc.action.runfiles.found? (.ofString "r") (.ofString "a"))) =
      some (some (some ⟨.ofString "y", .file⟩), some (some ⟨.ofString "z", .file⟩), none) := by
    decide +kernel
  cases h : ofDocument tworoots with
  | error failure => simp [h, Except.toOption] at hc
  | ok desc =>
    simp only [h, Except.toOption, Option.map_some, Option.some.injEq, Prod.mk.injEq] at hc
    obtain ⟨o, ho, hkeeps⟩ := loads_runfiles .own tworoots desc h
    exact ⟨desc, o, rfl, ho, hkeeps, hc⟩

/-- Not every document keeps its runfiles. -/
theorem runfiles_lost :
    ¬ ∀ (d : Document) (o : Outline) (desc : Description), Outline.ofDocument d = .ok o →
      ofDocument d = .ok desc → o.Lossless desc.action.runfiles := by
  intro hall
  have hlisted : (Outline.ofDocument tworoots).toOption.map (fun o =>
      (Outline.listed o.runfiles).head?.map Prod.fst) =
      some (some (.ofString "r", .ofString "a")) := by decide +kernel
  have hfound : (ofDocument tworoots).toOption.map (fun desc =>
      desc.action.runfiles.found? (.ofString "r") (.ofString "a")) = some none := by
    decide +kernel
  obtain ⟨o, ho, hfirst⟩ := Option.map_eq_some_iff.mp hlisted
  obtain ⟨desc, hdesc, hnone⟩ := Option.map_eq_some_iff.mp hfound
  obtain ⟨e, hhead, hkey⟩ := Option.map_eq_some_iff.mp hfirst
  obtain ⟨rest, hsplit⟩ := List.head?_eq_some_iff.mp hhead
  obtain ⟨_, _, _, hkept⟩ := hall tworoots o desc (ok_of_toOption ho)
    (ok_of_toOption hdesc) [] e rest hsplit
  rw [hkey, hnone] at hkept
  cases hkept

/-- References go by their spelling, wherever they stand and whatever they are read with. -/
theorem reads_references (fe : FrontEnd) (d : Document) (o : Outline)
    (h : Outline.ofDocument d fe = .ok o) : o.ReadsReferences (ofDocument d fe) := by
  rw [ofDocument_of_outline h]
  constructor
  case meant => exact o.lookup_eq
  case inputs => exact fun desc hdesc => (action_of_outline hdesc).1
  case runfiles =>
    intro desc hdesc root relative a ha
    rw [(action_of_outline hdesc).2, Outline.found?_runfilesTree] at ha
    obtain ⟨entries, hroot, hentry⟩ := Option.bind_eq_some_iff.mp ha
    obtain ⟨source, hsource, hlookup⟩ := Option.map_eq_some_iff.mp hentry
    obtain ⟨s, rfl, rfl⟩ := Option.map_eq_some_iff.mp hlookup
    obtain ⟨r, hr, -, rfl⟩ := Outline.mem_of_lastAt hroot
    obtain ⟨e, he, -, hs⟩ := Outline.mem_of_lastAt hsource
    exact ⟨r, hr, e, he, s, hs, rfl⟩
  case honoured => exact fun s => Outline.honours_iff
  case refused =>
    intro failure
    have hsame : (fun s => !(o.lookup s).isFileset) =
        fun s => decide (o.declaredKind? s ≠ some .fileset) := by
      funext s
      rw [Bool.eq_iff_iff, decide_eq_true_iff, ne_eq, ← Outline.isFileset_lookup_iff,
        Bool.not_eq_true', Bool.not_eq_true]
    rw [ofOutline_eq_error_iff, Outline.mounts_eq_error_iff, hsame]

/-- A tree and a fileset, listed as they are declared, and the tree in another spelling as well. -/
def respelled : Document :=
  .mapping [
    (.text "artifacts", .mapping [
      (.text "out/lib", .mapping [(.text "kind", .text "tree"), (.text "members", .list [.text "m"])]),
      (.text "out/fs", .mapping [(.text "kind", .text "fileset")])]),
    (.text "inputs", .list [.text "out/lib", .text "out/lib/"]),
    (.text "filesets", .list [.text "out/fs"])]

theorem references_of_respelled :
    ∃ o desc, Outline.ofDocument respelled = .ok o ∧ o.ReadsReferences (ofDocument respelled) ∧
      ofDocument respelled = .ok desc ∧ o.Honours "out/lib" ∧
      desc.action.inputs = [⟨.ofString "out/lib", .tree⟩, ⟨.ofString "out/lib", .file⟩] := by
  have hc : (Outline.ofDocument respelled).toOption.map (·.declaredKind? "out/lib") =
      some (some .tree) := by decide +kernel
  have hinputs : (ofDocument respelled).toOption.map (·.action.inputs) =
      some [⟨.ofString "out/lib", .tree⟩, ⟨.ofString "out/lib", .file⟩] := by decide +kernel
  obtain ⟨o, ho, hkind⟩ := Option.map_eq_some_iff.mp hc
  obtain ⟨desc, hdesc, hread⟩ := Option.map_eq_some_iff.mp hinputs
  have hreads := reads_references .own respelled o (ok_of_toOption ho)
  refine ⟨o, desc, ok_of_toOption ho, hreads, ok_of_toOption hdesc, ?_, hread⟩
  exact (hreads.honoured "out/lib").mpr (.inl (by rw [hkind]; rfl))

/-- A fileset that is listed in another spelling only. -/
def misspelled : Document :=
  .mapping [
    (.text "artifacts", .mapping [(.text "out/fs", .mapping [(.text "kind", .text "fileset")])]),
    (.text "filesets", .list [.text "out/fs/"])]

/-- Not every reference is honoured among the inputs, and not every fileset that is refused is
undeclared. -/
theorem references_dishonoured :
    (¬ ∀ (d : Document) (o : Outline) (desc : Description), Outline.ofDocument d = .ok o →
      ofDocument d = .ok desc → ∀ s ∈ o.inputs, o.Honours s) ∧
    ¬ ∀ (d : Document) (o : Outline) (s : String), Outline.ofDocument d = .ok o →
      ofDocument d = .error (.undeclaredFileset s) →
      (Path.ofString s, .fileset) ∉ o.declarations := by
  constructor
  · intro hall
    have hc : (Outline.ofDocument respelled).toOption.map (fun o =>
        decide (∀ s ∈ o.inputs, o.Honours s)) = some false := by decide +kernel
    have hloads : (ofDocument respelled).toOption.isSome = true := by decide +kernel
    obtain ⟨o, ho, hdishonoured⟩ := Option.map_eq_some_iff.mp hc
    obtain ⟨desc, hdesc⟩ := Option.isSome_iff_exists.mp hloads
    exact of_decide_eq_false hdishonoured
      (hall respelled o desc (ok_of_toOption ho) (ok_of_toOption hdesc))
  · intro hall
    have hc : (Outline.ofDocument misspelled).toOption.map (fun o =>
        decide ((Path.ofString "out/fs/", .fileset) ∈ o.declarations)) = some true := by
      decide +kernel
    obtain ⟨o, ho, hdeclared⟩ := Option.map_eq_some_iff.mp hc
    have hrefused : ofDocument misspelled = .error (.undeclaredFileset "out/fs/") := by rfl
    exact hall misspelled o "out/fs/" (ok_of_toOption ho) hrefused
      (of_decide_eq_true hdeclared)

end Description

end InputStaging
