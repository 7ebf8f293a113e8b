import InputStaging.Proofs.Containment
import InputStaging.Proofs.Fileset.Sources
import InputStaging.Proofs.Mounts
import Mathlib.Data.List.Nodup

/-!
# Provenance of sources

A source in the result of a call is the source of one link of a fileset that the action
mounts. Two calls that differ only in links that escape return the same, unless such links
are resolved; and where they are, none of them reaches above the execution root.
-/

namespace InputStaging

/-- Two lists that agree item by item are spread out alike. -/
theorem flatMap_eq_of_map_eq {α β γ : Type} {f f' : α → List β} {g : α → γ} {l l' : List α}
    (h : l'.map g = l.map g) (hf : ∀ a ∈ l, ∀ a' ∈ l', g a' = g a → f' a' = f a) :
    l'.flatMap f' = l.flatMap f := by
  induction l generalizing l' with
  | nil =>
    obtain rfl := List.map_eq_nil_iff.mp h
    rfl
  | cons a rest ih =>
    obtain ⟨a', rest', rfl, ha, hrest⟩ := List.map_eq_cons_iff.mp h
    rw [List.flatMap_cons, List.flatMap_cons, hf a (by simp) a' (by simp) ha,
      ih hrest fun b hb b' hb' => hf b (by simp [hb]) b' (by simp [hb'])]

/-- A table is sorted by what is found in it, whatever the order it was filled in. -/
theorem Table.sorted_congr {α : Type} {t t' : Table Path α} (h : ∀ p, t'.get? p = t.get? p) :
    t'.sorted = t.sorted := by
  have hmem : ∀ entry, entry ∈ t'.entries ↔ entry ∈ t.entries := by
    rintro ⟨p, a⟩
    rw [← find_eq_some_iff t'.nodup, ← find_eq_some_iff t.nodup]
    exact Eq.congr_left (h p)
  have hperm : t'.entries.Perm t.entries :=
    (List.perm_ext_iff_of_nodup (List.Nodup.of_map _ t'.nodup) (List.Nodup.of_map _ t.nodup)).mpr
      hmem
  exact sorted_of_perm hperm

namespace Resolver

variable {r : Resolver} {mount location p : Path} {links links' : List Link}

/-- A location outside the sandbox is asked for on account of a link. -/
theorem source_of_request (h : (location, .location p) ∈ r.requests links mount) :
    ∃ l ∈ links, r.Source mount.normalize l p := by
  unfold requests at h
  split at h
  next m hm =>
    obtain ⟨⟨q, target⟩, hmem, he⟩ := List.mem_map.mp h
    obtain ⟨rfl, hinput⟩ := Prod.mk.inj he
    cases target with
    | none => cases hinput
    | some target =>
      obtain rfl := Input.location.inj hinput
      exact exists_source_of_entry hm ((Table.find_eq_some_iff m.entries.nodup).mpr hmem)
  next => cases h

/-- Unless targets are resolved, links that escape ask for nothing. -/
theorem requests_of_confined (hr : r.policy ≠ .resolve)
    (hlinks : Link.confined mount.normalize links' = Link.confined mount.normalize links)
    (h : ∃ m, (r.manifest links (.ofPath mount)).1 = .ok m)
    (h' : ∃ m, (r.manifest links' (.ofPath mount)).1 = .ok m) :
    r.requests links' mount = r.requests links mount := by
  obtain ⟨m, hm⟩ := h
  obtain ⟨m', hm'⟩ := h'
  have hentries : m'.entries = m.entries := by
    refine entries_of_confined hr ?_ hm hm'
    exact hlinks
  unfold requests
  rw [hm, hm']
  show r.writes m' = r.writes m
  rw [writes, hentries, writes]

end Resolver

/-- Two actions, each with its expander, that are the same but for links that escape from the
fileset they are mounted with. -/
structure Action.SameInside (action action' : Action) (x x' : Expander) : Prop where
  inputs : action'.inputs = action.inputs
  members : x'.members? = x.members?
  runfiles : action'.runfiles = action.runfiles
  known : ∀ root ∈ action.runfiles.entries, ∀ relative a, (relative, some a) ∈ root.2.entries →
    a.kind = .fileset → ∀ links links', x.links? a = some links → x'.links? a = some links' →
      Link.confined (root.1 / relative).normalize links' =
        Link.confined (root.1 / relative).normalize links
  filesets : action'.filesets.entries.map (fun mount =>
      (mount.1, Link.confined mount.1.execPath.normalize mount.2)) =
    action.filesets.entries.map fun mount =>
      (mount.1, Link.confined mount.1.execPath.normalize mount.2)

namespace Engine

variable {e : Engine} {action action' : Action} {x x' : Expander} {base : Option Spelling}
  {metadata : Metadata} {result result' : List (Path × Input)}

/-- What a call returns was asked for, and stands where it was asked for. -/
theorem place_of_result (h : (e.map action x base metadata).1 = .ok result) {d : Path} {v : Input}
    (hmem : (d, v) ∈ result) : ∃ dir location, Path.baseDirectory base = .ok dir ∧
      (location, v) ∈ e.requests action x ∧ dir.Admits location ∧
      d = (dir / location).normalize := by
  obtain ⟨dir, p, hbase, hpass, ⟨counts, hok⟩, rfl, -⟩ := passed_of_map h
  rw [Table.mem_sorted_iff, hpass.reflects.entries, Option.map_eq_some_iff] at hmem
  obtain ⟨w, hlast, rfl⟩ := hmem
  obtain ⟨hw, rfl⟩ := Write.mem_of_last? hlast
  rw [List.nil_append] at hw
  obtain ⟨location, hasked, hplace⟩ := Script.Step.mem_history hw
  refine ⟨dir, location, hbase, ?_, hpass.admits (location, w.value) hasked, hplace⟩
  rw [← asks_script_steps hok]
  exact hasked

/-- What a call returns was asked for. -/
theorem request_of_result (h : (e.map action x base metadata).1 = .ok result) {d : Path}
    {v : Input} (hmem : (d, v) ∈ result) : ∃ location, (location, v) ∈ e.requests action x := by
  obtain ⟨-, location, -, hrequest, -⟩ := place_of_result h hmem
  exact ⟨location, hrequest⟩

theorem runfileRequests_of_sameInside (hr : e.resolver.policy ≠ .resolve)
    (hsame : action.SameInside action' x x')
    (h : (e.map action x base metadata).1 = .ok result)
    (h' : (e.map action' x' base metadata).1 = .ok result')
    {root : Path × Table Path (Option Artifact)} (hroot : root ∈ action.runfiles.entries)
    {entry : Path × Option Artifact} (hentry : entry ∈ root.2.entries) :
    e.runfileRequests x' (root.1 / entry.1) entry.2 =
      e.runfileRequests x (root.1 / entry.1) entry.2 := by
  obtain ⟨-, -, -, -, ⟨counts, hok⟩, -, -⟩ := passed_of_map h
  obtain ⟨-, -, -, -, ⟨counts', hok'⟩, -, -⟩ := passed_of_map h'
  obtain ⟨relative, _ | a⟩ := entry
  · rfl
  · unfold runfileRequests
    cases hkind : a.kind with
    | file => simp only [hkind]
    | tree => simp only [hkind, hsame.members]
    | other label => simp only [hkind]
    | fileset =>
      obtain ⟨prior, links, hknown, hmounts⟩ := mounts_of_runfile hok hroot hentry hkind
      obtain ⟨prior', links', hknown', hmounts'⟩ :=
        mounts_of_runfile hok' (hsame.runfiles ▸ hroot) hentry hkind
      have hlinks := hsame.known root hroot relative a hentry hkind links links' hknown hknown'
      simp only [hkind, hknown, hknown', Option.getD_some]
      exact Resolver.requests_of_confined hr hlinks (manifest_of_map h hmounts)
        (manifest_of_map h' hmounts')

/-- Calls that differ in escaping links only ask for the same in every phase. -/
theorem parts_of_sameInside (hr : e.resolver.policy ≠ .resolve)
    (hsame : action.SameInside action' x x')
    (h : (e.map action x base metadata).1 = .ok result)
    (h' : (e.map action' x' base metadata).1 = .ok result') :
    e.parts action' x' = e.parts action x := by
  have hinputs : inputRequests x' = inputRequests x := by
    funext a
    simp only [inputRequests, hsame.members]
  have hroots : (action.runfiles.entries.flatMap fun root =>
        root.2.entries.flatMap fun entry => e.runfileRequests x' (root.1 / entry.1) entry.2) =
      action.runfiles.entries.flatMap fun root =>
        root.2.entries.flatMap fun entry => e.runfileRequests x (root.1 / entry.1) entry.2 := by
    refine flatMap_eq_of_map_eq (g := id) rfl fun root hroot root' _ he => ?_
    obtain rfl : root' = root := he
    refine flatMap_eq_of_map_eq (g := id) rfl fun entry hentry entry' _ he => ?_
    obtain rfl : entry' = entry := he
    exact runfileRequests_of_sameInside hr hsame h h' hroot hentry
  have hmounts : (action'.filesets.entries.flatMap fun mount =>
        e.resolver.requests mount.2 mount.1.execPath) =
      action.filesets.entries.flatMap fun mount =>
        e.resolver.requests mount.2 mount.1.execPath := by
    obtain ⟨-, -, -, -, ⟨counts, hok⟩, -, -⟩ := passed_of_map h
    obtain ⟨-, -, -, -, ⟨counts', hok'⟩, -, -⟩ := passed_of_map h'
    refine flatMap_eq_of_map_eq hsame.filesets ?_
    rintro ⟨a, links⟩ hmem ⟨a', links'⟩ hmem' he
    obtain ⟨rfl, hlinks⟩ := Prod.mk.inj he
    obtain ⟨prior, hmounts⟩ := mounts_of_fileset hok hmem
    obtain ⟨prior', hmounts'⟩ := mounts_of_fileset hok' hmem'
    exact Resolver.requests_of_confined hr hlinks (manifest_of_map h hmounts)
      (manifest_of_map h' hmounts')
  unfold parts
  rw [hsame.inputs, hsame.runfiles, hinputs, hroots, hmounts]

/-- Unless they are resolved, links that escape do not show in what is returned. -/
theorem map_of_sameInside (hr : e.resolver.policy ≠ .resolve)
    (hsame : action.SameInside action' x x')
    (h : (e.map action x base metadata).1 = .ok result)
    (h' : (e.map action' x' base metadata).1 = .ok result') : result' = result := by
  have hparts := parts_of_sameInside hr hsame h h'
  obtain ⟨dir, p, hb, hpass, ⟨counts, hok⟩, rfl, -⟩ := passed_of_map h
  obtain ⟨dir', p', hb', hpass', ⟨counts', hok'⟩, rfl, -⟩ := passed_of_map h'
  obtain rfl := Except.ok.inj (hb.symm.trans hb')
  refine Table.sorted_congr fun d => ?_
  rw [hpass.reflects.entries, hpass'.reflects.entries, history_script hok, history_script hok',
    hparts]

/-- Where the sources in the result of a call come from, and where they cannot come from. -/
structure Traced (e : Engine) (action : Action) (x : Expander) (base : Option Spelling)
    (metadata : Metadata) : Prop where
  /-- A source is absolute, and it is that of a link of a mounted fileset. That of a relative
  link is what the link aims at, where escaping links are resolved. -/
  sources : ∀ result, (e.map action x base metadata).1 = .ok result →
    ∀ d p, (d, .location p) ∈ result → p.isAbsolute = true ∧
      ∃ prior mount links, action.Mounts x prior mount links ∧
        ∃ l ∈ links, e.resolver.Source mount.normalize l p ∧
          (l.isRelative = true → e.resolver.policy = .resolve ∧
            ∃ target, l.escapingTarget? mount.normalize = some target ∧
              p = e.resolver.execRoot / (l.aim mount.normalize target).normalize)
  /-- Where escaping links are not resolved, other such links make no difference. -/
  confined : e.resolver.policy ≠ .resolve →
    ∀ result, (e.map action x base metadata).1 = .ok result →
      ∀ action' x' result', action.SameInside action' x x' →
        (e.map action' x' base metadata).1 = .ok result' → result' = result
  /-- Where they are resolved, a call that returns has read none that climbs above the
  execution root. -/
  beneath_root : e.resolver.policy = .resolve →
    ∀ result, (e.map action x base metadata).1 = .ok result →
      ∀ prior mount links, action.Mounts x prior mount links →
        ∀ l ∈ links, ∀ target, ¬ l.Climbs mount.normalize target
  /-- A call that comes to one is refused for it. -/
  refuses : e.resolver.policy = .resolve →
    ∀ prior mount links, action.Mounts x prior mount links →
      (Spelling.ofPath mount).relative = .ok mount →
      (∀ l ∈ links, ∃ location, Resolver.locate mount.normalize l = .ok location) →
      (∃ l ∈ links, ∃ target, l.Climbs mount.normalize target) →
      ∃ l ∈ links, ∃ target, l.Climbs mount.normalize target ∧
        (e.map action x base metadata).1 = (e.map prior x base metadata).1.bind fun _ =>
          .error (.forbiddenLink target (l.place mount.normalize))

theorem map_provenance (e : Engine) (action : Action) (x : Expander) (base : Option Spelling)
    (metadata : Metadata) : e.Traced action x base metadata where
  sources result h d p hmem := by
    obtain ⟨-, -, -, -, ⟨counts, hok⟩, -, -⟩ := passed_of_map h
    obtain ⟨location, hrequest⟩ := request_of_result h hmem
    obtain ⟨prior, mount, links, hmounts, hrequest⟩ := mounts_of_request hok hrequest
    obtain ⟨l, hl, hsource⟩ := Resolver.source_of_request hrequest
    exact ⟨hsource.isAbsolute, prior, mount, links, hmounts, l, hl, hsource,
      hsource.of_isRelative⟩
  confined hr result h action' x' result' hsame h' := map_of_sameInside hr hsame h h'
  beneath_root hr result h prior mount links hmounts l hl target hclimbs := by
    obtain ⟨m, hm⟩ := manifest_of_map h hmounts
    have haccepted := (Resolver.manifest_isOk_iff.mp ⟨m, hm⟩).2 l hl
    rcases Resolver.escapes_of_accepted haccepted hclimbs.1 with hignore | ⟨-, hstays⟩
    · exact nomatch hr.symm.trans hignore
    · exact nomatch hstays.symm.trans hclimbs.2
  refuses := by
    rintro hr prior mount links hmounts hm hnames ⟨l, hl, target, hclimbs⟩
    obtain ⟨l', hl', target', hclimbs', hrefused⟩ :=
      Resolver.manifest_of_climbing hr hm hnames hl hclimbs
    exact ⟨l', hl', target', hclimbs', map_of_unreadable hmounts hrefused⟩

/-- Anchors the targets of escaping links at the execution root. -/
def resolving : Engine :=
  { lenient with resolver := { lenient.resolver with policy := .resolve } }

/-- An absolute target and one at the execution root below the runfiles, and a fileset of its
own in which one link escapes and another leads to it. -/
def farFetched : Action where
  runfiles := .ofList [(.ofString "r", .ofList [(.ofString "f", some fileset)])]
  filesets := .ofList [(fileset,
    [⟨.ofString "n", some "../q/./x", false⟩, ⟨.ofString "o", some "n", false⟩])]

def suppliers : Expander :=
  ⟨fun a => .error (.missingExpansion a.execPath .tree), fun _ =>
    .ok [⟨.ofString "k", some "/s/t", false⟩, ⟨.ofString "l", some "t", true⟩]⟩

def overreaching : List Link := [⟨.ofString "n", some "../../up", false⟩]

def mounting (links : List Link) : Action where
  filesets := .ofList [(fileset, ⟨.ofString "k", some "/s", false⟩ :: links)]

theorem provenance_of_farFetched :
    (∃ result, (resolving.map farFetched suppliers none fun _ => .ok .file).1 = .ok result ∧
      result.map (fun e => (e.1.text, e.2.text)) = [("r/f/k", "/s/t"), ("r/f/l", "/exec/t"),
        ("z/n", "/exec/q/x"), ("z/o", "/exec/q/x")] ∧
      ∀ d p, (d, .location p) ∈ result → ∃ prior mount links,
        farFetched.Mounts suppliers prior mount links ∧
          ∃ l ∈ links, resolving.resolver.Source mount.normalize l p) ∧
    (resolving.map (mounting overreaching) suppliers none fun _ => .ok .file).1 =
      .error (.forbiddenLink "../../up" (.ofString "z/n")) ∧
    (lenient.map (mounting overreaching) suppliers none fun _ => .ok .file).1 =
      (lenient.map (mounting []) suppliers none fun _ => .ok .file).1 := by
  refine ⟨?_, ?_, ?_⟩
  · have hok : (resolving.map farFetched suppliers none fun _ => .ok .file).1.toOption.isSome =
        true := by decide
    cases h : (resolving.map farFetched suppliers none fun _ => .ok .file).1 with
    | error failure => simp [h, Except.toOption] at hok
    | ok result =>
      have htraced := map_provenance resolving farFetched suppliers none fun _ => .ok .file
      refine ⟨result, rfl, ?_, fun d p hmem => ?_⟩
      · rw [result_of_map h, Table.sorted_of_pairwise (by decide)]
        decide
      · obtain ⟨-, prior, mount, links, hmounts, l, hl, hsource, -⟩ :=
          htraced.sources result h d p hmem
        exact ⟨prior, mount, links, hmounts, l, hl, hsource⟩
  · have htraced := map_provenance resolving (mounting overreaching) suppliers none fun _ =>
      .ok .file
    have hmounts : (mounting overreaching).Mounts suppliers {} fileset.execPath
        (⟨.ofString "k", some "/s", false⟩ :: overreaching) := .alone rfl rfl rfl rfl
    have hnames : ∀ l ∈ (⟨.ofString "k", some "/s", false⟩ :: overreaching : List Link),
        ∃ location, Resolver.locate fileset.execPath.normalize l = .ok location := by
      intro l hl
      rcases List.mem_cons.mp hl with rfl | hl
      · exact ⟨.ofString "z/k", rfl⟩
      · obtain rfl := List.mem_singleton.mp hl
        exact ⟨.ofString "z/n", rfl⟩
    obtain ⟨l, hl, target, hclimbs, hmap⟩ := htraced.refuses rfl _ _ _ hmounts rfl hnames
      ⟨_, List.mem_cons_of_mem _ (List.mem_singleton_self _), "../../up", rfl, rfl⟩
    rcases List.mem_cons.mp hl with rfl | hl
    · cases hclimbs.1
    · obtain rfl := List.mem_singleton.mp hl
      obtain rfl : "../../up" = target := Option.some.inj hclimbs.1
      rw [hmap]
      rfl
  · have hreturns : ∀ links ∈ [overreaching, []], ∃ result,
        (lenient.map (mounting links) suppliers none fun _ => .ok .file).1 = .ok result := by
      have hok : ∀ links ∈ [overreaching, []],
          (lenient.map (mounting links) suppliers none fun _ => .ok .file).1.toOption.isSome =
            true := by decide
      intro links hlinks
      cases h : (lenient.map (mounting links) suppliers none fun _ => .ok .file).1 with
      | error failure => simpa [h, Except.toOption] using hok links hlinks
      | ok result => exact ⟨result, rfl⟩
    have hsame : (mounting []).SameInside (mounting overreaching) suppliers suppliers :=
      ⟨rfl, rfl, rfl, fun _ hroot => absurd hroot List.not_mem_nil, by decide⟩
    obtain ⟨result, h⟩ := hreturns [] (by simp)
    obtain ⟨result', h'⟩ := hreturns overreaching (by simp)
    have htraced := map_provenance lenient (mounting []) suppliers none fun _ => .ok .file
    rw [h, h', htraced.confined (by decide) result h _ _ result' hsame h']

end Engine

end InputStaging
