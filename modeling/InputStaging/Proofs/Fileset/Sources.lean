import InputStaging.Proofs.Fileset.Repeats
import InputStaging.Proofs.Path.NormalForm
import InputStaging.Proofs.Path.Text

/-!
# Sources of fileset entries

Every entry of a manifest has its target from one link of the fileset, however long the chain
of links to it is. What the target names is said here of that link alone. A link that escapes
has a target to give only where such links are resolved, and otherwise it might as well not be
there.
-/

namespace InputStaging

namespace Link

/-- The links that do not escape from a fileset mounted at `mount`. -/
def confined (mount : Path) (links : List Link) : List Link :=
  links.filter fun l => (l.escapingTarget? mount).isNone

/-- An escaping link whose target climbs above the execution root. -/
def Climbs (l : Link) (mount : Path) (target : String) : Prop :=
  l.escapingTarget? mount = some target ∧ (l.aim mount target).climbsOut = true

theorem relativeTarget?_of_escapes {l : Link} {mount : Path} {target : String}
    (h : l.escapingTarget? mount = some target) : l.relativeTarget? = some target :=
  (Option.filter_eq_some_iff.mp h).1

theorem isAbsolute_of_relativeTarget? {l : Link} {target : String}
    (h : l.relativeTarget? = some target) : (Path.ofString target).isAbsolute = false := by
  unfold relativeTarget? at h
  split at h
  · cases h
  · simpa using (Option.filter_eq_some_iff.mp h).2

end Link

namespace Resolver

/-- What can be staged on account of one link: its absolute target, its target at the
execution root if the link asks for that, and what it aims at there if it escapes and escaping
links are resolved. -/
inductive Source (r : Resolver) (mount : Path) (l : Link) : Path → Prop where
  | absolute {target : String} (declared : l.target? = some target)
      (absolute : (Path.ofString target).isAbsolute = true) :
      Source r mount l (Path.ofString target)
  | anchored {target : String} (declared : l.target? = some target)
      (anchored : l.execAnchored = true) :
      Source r mount l (r.execRoot / Path.ofString target)
  | resolved {target : String} (policy : r.policy = .resolve)
      (escapes : l.escapingTarget? mount = some target)
      (clean : (l.aim mount target).normalize.Clean) :
      Source r mount l (r.execRoot / (l.aim mount target).normalize)

variable {r : Resolver} {mount p : Path} {l : Link} {links : List Link}

theorem Source.isAbsolute (h : r.Source mount l p) : p.isAbsolute = true := by
  cases h with
  | absolute _ habs => exact habs
  | anchored _ _ => exact Path.isAbsolute_div r.rooted _
  | resolved _ _ _ => exact Path.isAbsolute_div r.rooted _

/-- Of a relative target nothing is staged but what an escaping link resolves to. -/
theorem Source.of_isRelative (h : r.Source mount l p) (hl : l.isRelative = true) :
    r.policy = .resolve ∧ ∃ target, l.escapingTarget? mount = some target ∧
      p = r.execRoot / (l.aim mount target).normalize := by
  obtain ⟨t, ht⟩ := Option.isSome_iff_exists.mp hl
  have habs := Link.isAbsolute_of_relativeTarget? ht
  unfold Link.relativeTarget? at ht
  cases h with
  | absolute declared absolute =>
    split at ht
    · cases ht
    · obtain ⟨ht, -⟩ := Option.filter_eq_some_iff.mp ht
      obtain rfl := Option.some.inj (declared.symm.trans ht)
      exact nomatch habs.symm.trans absolute
  | anchored _ anchored =>
    rw [if_pos anchored] at ht
    cases ht
  | resolved policy escapes _ => exact ⟨policy, _, escapes, rfl⟩

/-! ## Accepted links -/

theorem escapes_of_accepted {target : String} (h : r.refusal? mount l = none)
    (he : l.escapingTarget? mount = some target) :
    r.policy = .ignore ∨ r.policy = .resolve ∧ (l.aim mount target).climbsOut = false := by
  unfold refusal? at h
  rw [he] at h
  split at h
  next => cases h
  next hnone => cases hnone
  next hsome =>
    obtain rfl := Option.some.inj hsome
    cases hp : r.policy with
    | error => simp [hp] at h
    | ignore => exact .inl rfl
    | resolve =>
      refine .inr ⟨rfl, ?_⟩
      simpa [hp] using h
    | other label => simp [hp] at h

/-- An accepted link stands beneath the sandbox root, in a fileset mounted there. -/
theorem place_of_accepted (hm : mount.isAbsolute = false) (h : r.refusal? mount l = none) :
    (l.place mount).Clean := by
  obtain ⟨-, ha, hc, -⟩ := locate_eq_ok (located_of_accepted h)
  exact Path.clean_normalize (Path.isAbsolute_div_of_relative hm ha) hc

/-! ## Entries and the links they come from -/

theorem source_of_directTarget? {target : String} (hm : mount.isAbsolute = false)
    (hl : r.refusal? mount l = none) (h : r.directTarget? mount l = some (some target)) :
    r.Source mount l (r.execRoot / Path.ofString target) := by
  unfold directTarget? at h
  cases hr : l.relativeTarget? with
  | none =>
    simp only [Link.isRelative, hr, Option.isSome_none, Bool.false_eq_true, if_false,
      Option.some.injEq] at h
    by_cases ha : l.execAnchored = true
    · exact .anchored h ha
    · have habs : (Path.ofString target).isAbsolute = true := by
        simpa [Link.relativeTarget?, ha, h, Option.filter] using hr
      rw [Path.div_of_isAbsolute habs]
      exact .absolute h habs
  | some t =>
    simp only [Link.isRelative, hr, Option.isSome_some, if_true] at h
    split at h
    next hp =>
      obtain ⟨t', he, ht⟩ := Option.map_eq_some_iff.mp h
      obtain rfl := Option.some.inj ht
      have hplace := place_of_accepted hm hl
      have haim : (l.aim mount t').isAbsolute = false := by
        have ht' := Link.isAbsolute_of_relativeTarget? (Link.relativeTarget?_of_escapes he)
        exact Path.isAbsolute_div_of_relative hplace.relative ht'
      have hstays : (l.aim mount t').climbsOut = false := by
        rcases escapes_of_accepted hl he with hignore | ⟨-, hc⟩
        · rw [hp] at hignore
          cases hignore
        · exact hc
      -- The target was kept as a text, and is absolute when it is read back.
      have habs := Path.isAbsolute_div r.rooted (l.aim mount t').normalize
      rw [Path.ofString_text, Path.div_of_isAbsolute habs]
      exact .resolved hp he (Path.clean_normalize haim hstays)
    next => cases h

theorem exists_link_of_directAt {target : Option String}
    (h : r.directAt mount links p = some target) :
    ∃ l ∈ links, l.place mount = p ∧ r.directTarget? mount l = some target :=
  exists_link_of_mem (Table.mem_of_find h)

theorem exists_link_of_linkAt {target : String} (h : linkAt mount links p = some target) :
    ∃ l ∈ links, l.place mount = p ∧ l.insideTarget? mount = some target :=
  exists_link_of_mem (List.mem_reverse.mp (Table.mem_of_find h))

/-- The target of an entry is what some link declares directly. -/
theorem exists_link_of_entry {mount : Spelling} {m : Manifest} {target : Option String}
    (h : (r.manifest links mount).1 = .ok m) (hp : m.entries.get? p = some target) :
    ∃ l ∈ links, r.directTarget? mount.path.normalize l = some target := by
  obtain ⟨-, -, -, hentries⟩ := manifest_eq_ok h
  rw [hentries p, Option.or_eq_some_iff] at hp
  rcases hp with hland | ⟨-, hdirect⟩
  · obtain ⟨t, ht, hland⟩ := Option.bind_eq_some_iff.mp hland
    obtain ⟨k, -, finish, -, hdirect⟩ := (settles_iff ht target).mpr hland
    obtain ⟨l, hl, -, ht⟩ := exists_link_of_directAt hdirect
    exact ⟨l, hl, ht⟩
  · obtain ⟨l, hl, -, ht⟩ := exists_link_of_directAt hdirect
    exact ⟨l, hl, ht⟩

/-- The source of an entry is that of an accepted link. -/
theorem exists_source_of_entry {mount : Spelling} {m : Manifest} {target : String}
    (h : (r.manifest links mount).1 = .ok m) (hp : m.entries.get? p = some (some target)) :
    ∃ l ∈ links, r.Source mount.path.normalize l (r.execRoot / Path.ofString target) := by
  obtain ⟨l, hl, ht⟩ := exists_link_of_entry h hp
  obtain ⟨hrel, -, haccepted, -⟩ := manifest_eq_ok h
  obtain ⟨-, hm, -, -⟩ := Spelling.relative_eq_ok_iff.mp hrel
  exact ⟨l, hl, source_of_directTarget? (Path.isAbsolute_normalize hm) (haccepted l hl) ht⟩

/-! ## Settling does not ask what was left out before -/

/-- What a draft is settled to. -/
def Draft.manifest (r : Resolver) (mount : Path) (d : Draft) : Manifest :=
  (d.links.entries.foldl (r.settle d.links)
    ({ mount, entries := d.entries, dropped := d.dropped }, d.log)).1

theorem manifest_of_accepted {mount : Spelling} (hm : mount.relative = .ok mount.path)
    (hlinks : ∀ l ∈ links, r.refusal? mount.path.normalize l = none) :
    (r.manifest links mount).1 =
      .ok ((r.draft mount.path.normalize links).manifest r mount.path.normalize) := by
  have hread : r.declareAll mount.path.normalize {} links =
      (r.draft mount.path.normalize links, .ok ()) := declareAll_eq_ok_iff.mpr ⟨hlinks, rfl⟩
  unfold manifest
  simp only [hm, hread]
  rfl

theorem settle_dropped (links : Table Path String) (before : List Path) (m : Manifest)
    (log log' : List Event) (link : Path × String) :
    (r.settle links ({ m with dropped := before ++ m.dropped }, log) link).1 =
      let m' := (r.settle links (m, log') link).1
      { m' with dropped := before ++ m'.dropped } := by
  unfold settle
  dsimp only
  cases chase links r.maxHops link.1 link.2 [] with
  | tooLong => simp
  | cycle seen => simp
  | arrived at_ =>
    dsimp only
    cases m.entries.get? at_ <;> simp

/-- What was left out before the links are settled stays in front. Nothing else depends on it, nor
on what was told. -/
theorem foldl_settle_dropped (links : Table Path String) (before : List Path)
    (order : List (Path × String)) : ∀ (m : Manifest) (log log' : List Event),
      (order.foldl (r.settle links) ({ m with dropped := before ++ m.dropped }, log)).1 =
        let m' := (order.foldl (r.settle links) (m, log')).1
        { m' with dropped := before ++ m'.dropped } := by
  induction order with
  | nil => exact fun _ _ _ => rfl
  | cons link rest ih =>
    intro m log log'
    have hstep := r.settle_dropped links before m log log' link
    rw [List.foldl_cons, List.foldl_cons]
    generalize r.settle links (m, log') link = next at hstep ⊢
    generalize r.settle links ({ m with dropped := before ++ m.dropped }, log) link = next'
      at hstep ⊢
    obtain ⟨m₁, log₁⟩ := next
    obtain ⟨m₂, log₂⟩ := next'
    obtain rfl : m₂ = { m₁ with dropped := before ++ m₁.dropped } := hstep
    exact ih m₁ log₂ log₁

theorem manifest_dropped (before : List Path) {d d' : Draft} (hentries : d.entries = d'.entries)
    (hlinks : d.links = d'.links) (hdropped : d.dropped = before ++ d'.dropped) :
    d.manifest r mount = { d'.manifest r mount with
      dropped := before ++ (d'.manifest r mount).dropped } := by
  unfold Draft.manifest
  rw [hentries, hlinks, hdropped]
  exact r.foldl_settle_dropped d'.links before d'.links.entries
    { mount, entries := d'.entries, dropped := d'.dropped } d.log d'.log

/-! ## Links that escape -/

theorem mem_confined_iff :
    l ∈ Link.confined mount links ↔ l ∈ links ∧ l.escapingTarget? mount = none := by
  simp [Link.confined]

theorem confined_stays (mount : Path) (links : List Link) :
    ∀ l ∈ Link.confined mount links, l.escapingTarget? mount = none :=
  fun _ hl => (mem_confined_iff.mp hl).2

theorem ignored_of_confined (h : ∀ l ∈ links, l.escapingTarget? mount = none) :
    r.ignored mount links = [] := by
  unfold ignored
  split
  · have hnone : links.filter (fun l => (l.escapingTarget? mount).isSome) = [] :=
      List.filter_eq_nil_iff.mpr fun l hl => by simp [h l hl]
    rw [hnone, List.map_nil]
  · rfl

theorem insides_confined (mount : Path) (links : List Link) :
    insides mount (Link.confined mount links) = insides mount links := by
  refine insides_filter fun l hl => ?_
  rcases l.reading mount with ⟨-, hi, -⟩ | ⟨t, -, -, he, -⟩ | ⟨t, -, hi, -⟩
  · exact hi
  · simp [he] at hl
  · exact hi

theorem directs_confined (hr : r.policy ≠ .resolve) (mount : Path) (links : List Link) :
    r.directs mount (Link.confined mount links) = r.directs mount links := by
  unfold directs Link.confined
  rw [List.filterMap_filter]
  congr 1
  funext l
  cases he : l.escapingTarget? mount with
  | none => simp
  | some t =>
    have hnone : r.directTarget? mount l = none := by
      unfold directTarget? Link.isRelative
      rw [Link.relativeTarget?_of_escapes he, if_pos (Option.isSome_some), if_neg hr]
    simp [hnone]

/-- Unless they are resolved, links that escape only show in what is dropped. -/
theorem manifest_of_confined (hr : r.policy ≠ .resolve) (mount : Path) (links : List Link) :
    (r.draft mount links).manifest r mount =
      let m := (r.draft mount (Link.confined mount links)).manifest r mount
      { m with dropped := r.ignored mount links ++ m.dropped } := by
  have hnone : r.ignored mount (Link.confined mount links) = [] :=
    ignored_of_confined (confined_stays mount links)
  refine manifest_dropped _ ?_ ?_ ?_
  · simp only [draft, Draft.read, directs_confined hr]
  · simp only [draft, Draft.read, insides_confined]
  · simp only [draft, Draft.read, hnone, List.nil_append, List.append_nil]

theorem entries_of_confined {links' : List Link} {mount : Spelling} {m m' : Manifest}
    (hr : r.policy ≠ .resolve)
    (hlinks : Link.confined mount.path.normalize links' = Link.confined mount.path.normalize links)
    (h : (r.manifest links mount).1 = .ok m) (h' : (r.manifest links' mount).1 = .ok m') :
    m'.entries = m.entries := by
  obtain ⟨hrel, -, haccepted, -⟩ := manifest_eq_ok h
  obtain ⟨-, -, haccepted', -⟩ := manifest_eq_ok h'
  rw [manifest_of_accepted hrel haccepted, manifest_of_confined hr] at h
  rw [manifest_of_accepted hrel haccepted', manifest_of_confined hr, hlinks] at h'
  obtain rfl := Except.ok.inj h
  obtain rfl := Except.ok.inj h'
  rfl

/-- Where escaping links are resolved, one that climbs is refused, and so is its fileset,
unless it is for a name that it is refused. -/
theorem manifest_of_climbing {mount : Spelling} {target : String} (hr : r.policy = .resolve)
    (hm : mount.relative = .ok mount.path)
    (hnames : ∀ l ∈ links, ∃ location, locate mount.path.normalize l = .ok location)
    (hl : l ∈ links) (hc : l.Climbs mount.path.normalize target) :
    ∃ l' ∈ links, ∃ target', l'.Climbs mount.path.normalize target' ∧
      (r.manifest links mount).1 =
        .error (.forbiddenLink target' (l'.place mount.path.normalize)) := by
  cases hfirst : links.findSome? (r.refusal? mount.path.normalize) with
  | none =>
    have haccepted := List.findSome?_eq_none_iff.mp hfirst l hl
    rcases escapes_of_accepted haccepted hc.1 with hignore | ⟨-, hstays⟩
    · rw [hr] at hignore
      cases hignore
    · exact nomatch hstays.symm.trans hc.2
  | some failure =>
    obtain ⟨l', hl', hrefused⟩ := List.exists_of_findSome?_eq_some hfirst
    obtain ⟨location, hloc⟩ := hnames l' hl'
    unfold refusal? at hrefused
    rw [hloc, hr] at hrefused
    cases he' : l'.escapingTarget? mount.path.normalize with
    | none => simp [he'] at hrefused
    | some target' =>
      simp only [he'] at hrefused
      split at hrefused
      next hc' =>
        obtain rfl := Option.some.inj hrefused
        exact ⟨l', hl', target', ⟨he', hc'⟩, manifest_eq_error_iff.mpr (.inr ⟨hm, hfirst⟩)⟩
      next => cases hrefused

end Resolver

end InputStaging
