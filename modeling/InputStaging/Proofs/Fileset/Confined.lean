import InputStaging.Proofs.Fileset.Sources
import InputStaging.Proofs.Path.Climbing

/-!
# Filesets keep to their mounts

A name or a target may leave the fileset on its way and come back. Where it ends is in the fileset,
and one hop from a link to another entry ends there wherever it starts, so that no chain of links
comes to any other place. What is in, and what is only spelt alike, is decided by segments.
-/

namespace InputStaging

namespace Path

/-- The path is clean, and it is the directory or lies beneath it. -/
structure StandsIn (p dir : Path) : Prop where
  clean : p.Clean
  beneath : dir.segments <+: p.segments

/-- Of a path that does not climb out the segments decide whether it is in a clean directory. -/
theorem isWithin_iff {p dir : Path} (hdir : dir.Clean) (hp : p.isAbsolute = false)
    (hc : p.climbsOut = false) :
    p.isWithin dir = true ↔ dir.segments <+: p.normalize.segments := by
  unfold isWithin
  rw [normalize_of_noUp hdir.noUp]
  split
  next he => simp [he, hc]
  next =>
    have hroots : dir.root = p.normalize.root := by
      rw [root_of_relative hdir.relative, root_of_relative (isAbsolute_normalize hp)]
    simp [isPrefixOf, hroots]

theorem standsIn_of_isWithin {p dir : Path} (hdir : dir.Clean) (hp : p.isAbsolute = false)
    (hc : p.climbsOut = false) (hw : p.isWithin dir = true) : p.normalize.StandsIn dir :=
  ⟨clean_normalize hp hc, (isWithin_iff hdir hp hc).mp hw⟩

end Path

namespace Resolver

variable {r : Resolver} {dir p : Path} {l : Link} {links : List Link}

/-! ## One link -/

/-- Where a link has a place, the directory that the fileset is mounted at does not climb. -/
theorem clean_of_located (hdir : dir.isAbsolute = false) (h : locate dir.normalize l = .ok p) :
    dir.normalize.Clean := by
  obtain ⟨-, ha, hc, -⟩ := locate_eq_ok h
  have hmount := Path.isAbsolute_normalize hdir
  exact Path.clean_of_not_climbs hdir (Path.climbsOut_of_div hmount ha hc)

theorem standsIn_of_located (hdir : dir.isAbsolute = false)
    (h : locate dir.normalize l = .ok p) : p.StandsIn dir.normalize := by
  have hm := clean_of_located hdir h
  obtain ⟨rfl, ha, hc, hw⟩ := locate_eq_ok h
  have hrel := Path.isAbsolute_div_of_relative hm.relative ha
  exact Path.standsIn_of_isWithin hm hrel hc hw

theorem clean_of_accepted (hdir : dir.isAbsolute = false)
    (h : r.refusal? dir.normalize l = none) : dir.normalize.Clean :=
  clean_of_located hdir (located_of_accepted h)

theorem standsIn_place (hdir : dir.isAbsolute = false) (h : r.refusal? dir.normalize l = none) :
    (l.place dir.normalize).StandsIn dir.normalize :=
  standsIn_of_located hdir (located_of_accepted h)

theorem standsIn_aim {target : String} (hdir : dir.isAbsolute = false)
    (h : r.refusal? dir.normalize l = none) (ht : l.insideTarget? dir.normalize = some target) :
    (l.aim dir.normalize target).normalize.StandsIn dir.normalize := by
  obtain ⟨hrel, hstays⟩ := Option.filter_eq_some_iff.mp ht
  rw [Link.staysInside, Bool.and_eq_true, Bool.not_eq_true'] at hstays
  have hparent : (l.place dir.normalize).parent.isAbsolute = false :=
    (standsIn_place hdir h).clean.relative
  have haim : (l.aim dir.normalize target).isAbsolute = false :=
    Path.isAbsolute_div_of_relative hparent (Link.isAbsolute_of_relativeTarget? hrel)
  exact Path.standsIn_of_isWithin (clean_of_accepted hdir h) haim hstays.1 hstays.2

/-- Whatever is declared in a fileset is declared at a place in it. -/
theorem standsIn_of_mem {α : Type} {declared? : Link → Option α} {target : α}
    (hdir : dir.isAbsolute = false) (haccepted : ∀ l ∈ links, r.refusal? dir.normalize l = none)
    (h : (p, target) ∈ links.filterMap fun l =>
      (declared? l).map fun target => (l.place dir.normalize, target)) :
    p.StandsIn dir.normalize := by
  obtain ⟨l, hl, rfl, -⟩ := exists_link_of_mem h
  exact standsIn_place hdir (haccepted l hl)

/-! ## Chains -/

theorem standsIn_of_linkAt {target : String} (hdir : dir.isAbsolute = false)
    (haccepted : ∀ l ∈ links, r.refusal? dir.normalize l = none)
    (h : linkAt dir.normalize links p = some target) : p.StandsIn dir.normalize :=
  standsIn_of_mem hdir haccepted (List.mem_reverse.mp (Table.mem_of_find h))

/-- One hop comes to a place in the fileset. -/
theorem standsIn_hop (hdir : dir.isAbsolute = false)
    (haccepted : ∀ l ∈ links, r.refusal? dir.normalize l = none)
    (hp : p.StandsIn dir.normalize) :
    (hop (linkAt dir.normalize links) p).StandsIn dir.normalize := by
  cases ht : linkAt dir.normalize links p with
  | none =>
    rw [hop, ht]
    exact hp
  | some target =>
    obtain ⟨l, hl, rfl, hinside⟩ := exists_link_of_linkAt ht
    rw [hop_of_some ht]
    exact standsIn_aim hdir (haccepted l hl) hinside

/-- The locations that following a link comes to, in order. -/
def visits (links : Table Path String) : Nat → Path → String → List Path → List Path
  | 0, _, _, _ => []
  | hops + 1, current, target, seen =>
    let next := (current.parent / Path.ofString target).normalize
    next ::
      if next ∈ seen then []
      else
        match links.get? next with
        | none => []
        | some target => visits links hops next target (seen ++ [next])

/-- What hops preserve holds wherever a chain comes to. -/
theorem visits_of_hop {links : Table Path String} {holds : Path → Prop}
    (hop_holds : ∀ p, holds p → holds (hop links.get? p)) {limit : Nat} {current : Path}
    {target : String} {seen : List Path} (ht : links.get? current = some target)
    (hcurrent : holds current) : ∀ p ∈ visits links limit current target seen, holds p := by
  induction limit generalizing current target seen with
  | zero => exact fun p hp => nomatch hp
  | succ limit ih =>
    have hnext := hop_holds current hcurrent
    rw [visits, ← hop_of_some ht]
    intro p hp
    rcases List.mem_cons.mp hp with rfl | hp
    · exact hnext
    · split at hp
      · cases hp
      · cases hlink : links.get? (hop links.get? current) with
        | none => simp [hlink] at hp
        | some next =>
          simp only [hlink] at hp
          exact ih hlink hnext p hp

/-- How a chain ends is known from the locations that it comes to. -/
def Chase.Ends (limit : Nat) (seen visited : List Path) : Chase → Prop
  | .tooLong => visited.length = limit
  | .cycle told => visited ≠ [] ∧ told = seen ++ visited.dropLast
  | .arrived p => visited.getLast? = some p

theorem Chase.Ends.cons {ending : Chase} {limit : Nat} {seen visited : List Path} {next : Path}
    (h : ending.Ends limit (seen ++ [next]) visited) :
    ending.Ends (limit + 1) seen (next :: visited) := by
  cases ending with
  | tooLong => exact congrArg (· + 1) h
  | cycle told =>
    obtain ⟨hne, htold⟩ := h
    refine ⟨List.cons_ne_nil _ _, ?_⟩
    rw [List.dropLast_cons_of_ne_nil hne, htold, List.append_assoc]
    rfl
  | arrived p =>
    show (next :: visited).getLast? = some p
    rw [List.getLast?_cons, show visited.getLast? = some p from h]
    rfl

theorem chase_ends (links : Table Path String) (limit : Nat) (current : Path) (target : String)
    (seen : List Path) : (chase links limit current target seen).Ends limit seen
      (visits links limit current target seen) := by
  induction limit generalizing current target seen with
  | zero => rfl
  | succ limit ih =>
    rw [chase, visits]
    generalize (current.parent / Path.ofString target).normalize = next
    by_cases hback : next ∈ seen
    · rw [if_pos hback, if_pos hback]
      by_cases hlimit : limit = 0
      · rw [if_pos hlimit, hlimit]
        rfl
      · rw [if_neg hlimit]
        exact ⟨List.cons_ne_nil _ _, (List.append_nil seen).symm⟩
    · rw [if_neg hback, if_neg hback]
      cases hnext : links.get? next with
      | none => rfl
      | some target => exact (ih next target (seen ++ [next])).cons

/-! ## Whole filesets -/

/-- Whatever a fileset comes to is clean, and stands in the directory that it is mounted at. -/
structure Confined (r : Resolver) (links : List Link) (m : Manifest) : Prop where
  entries : ∀ p ∈ m.entries.keys, p.StandsIn m.mount
  dropped : ∀ p ∈ m.dropped, p.StandsIn m.mount
  visited : ∀ p target, (r.draft m.mount links).links.get? p = some target →
    let visited := visits (r.draft m.mount links).links r.maxHops p target []
    (chase (r.draft m.mount links).links r.maxHops p target []).Ends r.maxHops [] visited ∧
      ∀ q ∈ visited, q.StandsIn m.mount

theorem standsIn_of_ignored (hdir : dir.isAbsolute = false)
    (haccepted : ∀ l ∈ links, r.refusal? dir.normalize l = none)
    (h : p ∈ r.ignored dir.normalize links) : p.StandsIn dir.normalize := by
  unfold ignored at h
  split at h
  · obtain ⟨l, hl, rfl⟩ := List.mem_map.mp h
    exact standsIn_place hdir (haccepted l (List.mem_filter.mp hl).1)
  · cases h

theorem confined_of_manifest {mount : Spelling} {m : Manifest}
    (h : (r.manifest links mount).1 = .ok m) : r.Confined links m := by
  obtain ⟨hrel, hmount, haccepted, hentries⟩ := manifest_eq_ok h
  obtain ⟨-, hdir, -, -⟩ := Spelling.relative_eq_ok_iff.mp hrel
  obtain ⟨unsettled, hdropped, -, hunsettled⟩ := (reference_of_manifest h).dropped
  rw [hmount] at hdropped hunsettled
  constructor
  case entries =>
    intro p hp
    rw [hmount]
    cases ht : linkAt mount.path.normalize links p with
    | some target => exact standsIn_of_linkAt hdir haccepted ht
    | none =>
      have hdirect : m.entries.get? p = r.directAt mount.path.normalize links p := by
        rw [hentries p, ht]
        rfl
      obtain ⟨target, htarget⟩ := Option.isSome_iff_exists.mp (Table.contains_iff.mpr hp)
      exact standsIn_of_mem hdir haccepted (Table.mem_of_find (hdirect.symm.trans htarget))
  case dropped =>
    intro p hp
    rw [hmount]
    rw [hdropped, List.mem_append] at hp
    rcases hp with hignored | hp
    · exact standsIn_of_ignored hdir haccepted hignored
    · obtain ⟨target, ht⟩ := Option.ne_none_iff_exists'.mp ((hunsettled p).mp hp).1
      exact standsIn_of_linkAt hdir haccepted ht
  case visited =>
    rw [hmount]
    intro p target ht
    have hstart := ht
    rw [draft_links] at hstart
    refine ⟨chase_ends _ _ _ _ _, ?_⟩
    refine visits_of_hop (fun q hq => ?_) ht (standsIn_of_linkAt hdir haccepted hstart)
    rw [draft_links]
    exact standsIn_hop hdir haccepted hq

end Resolver

end InputStaging
