import InputStaging.Proofs.Fileset.Chain
import InputStaging.Proofs.Fileset.Draft

/-!
# Manifests from two maps

A manifest is settled link by link, and each link settled may change what a later one
finds. The main result says what comes out without any order: a location with links to
other entries takes the direct target at the end of its chain, and every other location
keeps its own. Links only take over entries at their own locations, and no chain ends at
a link, which is why the order does not show.
-/

namespace InputStaging.Resolver

/-- The first direct declaration at a location. -/
def directAt (r : Resolver) (mount : Path) (links : List Link) (at_ : Path) :
    Option (Option String) :=
  Table.find at_ (r.directs mount links)

/-- The last link to another entry at a location. -/
def linkAt (mount : Path) (links : List Link) (at_ : Path) : Option String :=
  Table.find at_ (insides mount links).reverse

/-- The chain from a location comes, within the limit, to a location that has a direct
declaration and no link. -/
def Settles (r : Resolver) (mount : Path) (links : List Link) (at_ : Path)
    (target : Option String) : Prop :=
  ∃ k ≤ r.maxHops, ∃ finish, Leads (linkAt mount links) at_ k finish ∧
    r.directAt mount links finish = some target

/-- What a manifest holds, by location. -/
structure Reference (r : Resolver) (links : List Link) (m : Manifest) : Prop where
  /-- A location without link has what was first declared there. -/
  unlinked : ∀ p, linkAt m.mount links p = none → m.entries.get? p = r.directAt m.mount links p
  /-- A link takes over the target at the end of its chain. -/
  settled : ∀ p, linkAt m.mount links p ≠ none → ∀ target, r.Settles m.mount links p target →
    m.entries.get? p = some target
  /-- A cycle, a chain beyond the limit or a dangling one leaves what was declared there. -/
  unsettled : ∀ p, linkAt m.mount links p ≠ none → (¬ ∃ target, r.Settles m.mount links p target) →
    p ∈ m.dropped ∧ m.entries.get? p = r.directAt m.mount links p
  /-- Links that do not settle are dropped once each, after those that were ignored. -/
  dropped : ∃ unsettled : List Path, m.dropped = r.ignored m.mount links ++ unsettled ∧
    unsettled.Nodup ∧ ∀ p, p ∈ unsettled ↔
      linkAt m.mount links p ≠ none ∧ ¬ ∃ target, r.Settles m.mount links p target

/-- The manifest, had the links to other entries been settled in another order. -/
def manifestIn (r : Resolver) (reorder : List (Path × String) → List (Path × String))
    (links : List Link) (mount : Spelling) : Except Failure Manifest × List Event :=
  match mount.relative with
  | .error e => (.error e, [])
  | .ok mount =>
    let mount := mount.normalize
    match r.declareAll mount {} links with
    | (d, .error e) => (.error e, d.log)
    | (d, .ok ()) =>
      let m := (reorder d.links.entries).foldl (r.settle d.links)
        ({ mount, entries := d.entries, dropped := d.dropped }, d.log)
      (.ok m.1, m.2)

/-- The order in which the links were declared is one of the orders to settle them in. -/
theorem manifest_eq_manifestIn (r : Resolver) : r.manifest = r.manifestIn id := rfl

/-! ## Settling links -/

/-- The target at the end of a link's chain. -/
def landing? (r : Resolver) (d : Draft) (link : Path × String) : Option (Option String) :=
  match chase d.links r.maxHops link.1 link.2 [] with
  | .arrived at_ => d.entries.get? at_
  | _ => none

/-- A chase within the limit lands exactly where the chain of links ends. -/
theorem landing?_eq_some_iff {r : Resolver} {d : Draft} {p : Path} {t : String}
    (h : d.links.get? p = some t) (target : Option String) :
    r.landing? d (p, t) = some target ↔
      ∃ k ≤ r.maxHops, ∃ finish, Leads d.links.get? p k finish ∧
        d.entries.get? finish = some target := by
  have harr : ∀ q, chase d.links r.maxHops p t [] = .arrived q ↔
      ∃ k ≤ r.maxHops, Leads d.links.get? p k q :=
    fun q => chase_eq_arrived_iff h (trail_nil d.links p)
  unfold landing?
  constructor
  · intro hl
    split at hl
    next at_ hc =>
      obtain ⟨k, hk, hleads⟩ := (harr at_).mp hc
      exact ⟨k, hk, at_, hleads, hl⟩
    next => cases hl
  · rintro ⟨k, hk, finish, hleads, he⟩
    rw [(harr finish).mpr ⟨k, hk, hleads⟩]
    exact he

/-- The manifest agrees with the draft wherever no link stands. -/
def Agrees (d : Draft) (m : Manifest) : Prop :=
  ∀ p, d.links.get? p = none → m.entries.get? p = d.entries.get? p

def settled (r : Resolver) (d : Draft) (m : Manifest) (link : Path × String) : Manifest :=
  match r.landing? d link with
  | some target => { m with entries := m.entries.insert link.1 target }
  | none => { m with dropped := m.dropped ++ [link.1] }

/-- What is told of a link when it is settled. -/
def settlingNotice (r : Resolver) (d : Draft) (mount : Path) (link : Path × String) :
    List Event :=
  match chase d.links r.maxHops link.1 link.2 [] with
  | .tooLong => [.chainTooLong link.1 r.maxHops r.maxHops]
  | .cycle seen => [.linkCycle link.1 seen]
  | .arrived at_ =>
    if d.entries.get? at_ = none then [.linkDangling link.1 at_ mount] else []

/-- Settling a link looks at the draft only: what was settled before has no part in it. -/
theorem settle_eq {r : Resolver} {d : Draft} {m : Manifest} (log : List Event)
    {link : Path × String} (hm : Agrees d m) (hlink : d.links.get? link.1 = some link.2) :
    r.settle d.links (m, log) link =
      (r.settled d m link, log ++ r.settlingNotice d m.mount link) := by
  unfold settle settled settlingNotice landing?
  cases hc : chase d.links r.maxHops link.1 link.2 [] with
  | tooLong => simp [hc]
  | cycle seen => simp [hc]
  | arrived at_ =>
    obtain ⟨k, hk, hleads⟩ := (chase_eq_arrived_iff hlink (trail_nil d.links link.1)).mp hc
    have he := hm at_ hleads.free
    cases hd : d.entries.get? at_ with
    | none => simp [hc, he, hd]
    | some target => simp [hc, he, hd]

theorem Agrees.settled {r : Resolver} {d : Draft} {m : Manifest} {link : Path × String}
    (hm : Agrees d m) (hlink : d.links.get? link.1 = some link.2) :
    Agrees d (r.settled d m link) := by
  intro p hp
  unfold Resolver.settled
  cases r.landing? d link with
  | none => exact hm p hp
  | some target =>
    have hne : p ≠ link.1 := by
      rintro rfl
      rw [hlink] at hp
      cases hp
    rw [Table.get?_insert, if_neg hne]
    exact hm p hp

/-- By induction on the links that are left. The manifest agrees with the draft on everything that
is no link, which is all that a chase reads. -/
theorem foldl_settle (r : Resolver) {d : Draft} {order : List (Path × String)}
    (hnodup : (order.map Prod.fst).Nodup)
    (hlinks : ∀ link ∈ order, d.links.get? link.1 = some link.2) :
    ∀ (m : Manifest) (log : List Event), Agrees d m →
      ∃ m', order.foldl (r.settle d.links) (m, log) =
          (m', log ++ order.flatMap (r.settlingNotice d m.mount)) ∧
        m'.mount = m.mount ∧
        (∀ p, m'.entries.get? p =
          ((Table.find p order).bind fun t => r.landing? d (p, t)).or (m.entries.get? p)) ∧
        m'.dropped = m.dropped ++
          (order.filter fun link => (r.landing? d link).isNone).map Prod.fst := by
  induction order with
  | nil => exact fun m log _ => ⟨m, by simp, rfl, by simp [Table.find], by simp⟩
  | cons link rest ih =>
    intro m log hm
    rw [List.map_cons, List.nodup_cons] at hnodup
    have hlink := hlinks link (by simp)
    have hmount : (r.settled d m link).mount = m.mount := by
      unfold settled
      cases r.landing? d link <;> rfl
    obtain ⟨m', hfold, hm', hentries, hdropped⟩ := ih hnodup.2
      (fun l hl => hlinks l (List.mem_cons_of_mem _ hl)) (r.settled d m link)
      (log ++ r.settlingNotice d m.mount link) (hm.settled hlink)
    refine ⟨m', ?_, hm'.trans hmount, ?_, ?_⟩
    · rw [List.foldl_cons, settle_eq log hm hlink, hfold, hmount]
      simp
    · intro p
      rw [hentries p]
      by_cases hp : link.1 = p
      · subst hp
        have habsent : Table.find link.1 rest = none := Table.find_eq_none_iff.mpr hnodup.1
        rw [habsent]
        unfold settled
        cases hl : r.landing? d link <;> simp [Table.find, Table.get?_insert, hl]
      · unfold settled
        cases hl : r.landing? d link <;>
          simp [Table.find, Table.get?_insert, hp, Ne.symm hp]
    · rw [hdropped]
      unfold settled
      cases hl : r.landing? d link <;> simp [hl]

/-! ## The manifest of a draft -/

def draft (r : Resolver) (mount : Path) (links : List Link) : Draft :=
  Draft.read r mount {} links

theorem draft_links (r : Resolver) (mount : Path) (links : List Link) :
    (r.draft mount links).links.get? = linkAt mount links := by
  funext p
  show (List.foldl _ Table.empty _).get? p = _
  rw [Table.get?_foldl_insert, Table.get?_empty, Option.or_none, linkAt]

theorem draft_entries (r : Resolver) (mount : Path) (links : List Link) :
    (r.draft mount links).entries.get? = r.directAt mount links := by
  funext p
  show (List.foldl _ Table.empty _).get? p = _
  rw [Table.get?_foldl_insertNew, Table.get?_empty, Option.none_or, directAt]

/-- A link lands on a target exactly if its location settles on it. -/
theorem settles_iff {r : Resolver} {mount p : Path} {links : List Link} {t : String}
    (h : linkAt mount links p = some t) (target : Option String) :
    r.Settles mount links p target ↔
      r.landing? (r.draft mount links) (p, t) = some target := by
  rw [← draft_links r] at h
  rw [landing?_eq_some_iff h, Settles, draft_links, draft_entries]

/-- What is left of the links once they were all accepted, whatever order they settle in. -/
theorem manifestIn_eq_ok {r : Resolver} {links : List Link} {mount : Spelling} {m : Manifest}
    {reorder : List (Path × String) → List (Path × String)}
    (hperm : ∀ order, (reorder order).Perm order)
    (h : (r.manifestIn reorder links mount).1 = .ok m) :
    mount.relative = .ok mount.path ∧ m.mount = mount.path.normalize ∧
    (∀ l ∈ links, r.refusal? m.mount l = none) ∧
    (∀ p, m.entries.get? p = ((linkAt m.mount links p).bind fun t =>
      r.landing? (r.draft m.mount links) (p, t)).or (r.directAt m.mount links p)) ∧
    m.dropped = r.ignored m.mount links ++ ((reorder (r.draft m.mount links).links.entries).filter
      fun link => (r.landing? (r.draft m.mount links) link).isNone).map Prod.fst := by
  unfold manifestIn at h
  cases hm : mount.relative with
  | error e => simp [hm] at h
  | ok path =>
    obtain ⟨-, -, -, rfl⟩ := Spelling.relative_eq_ok_iff.mp hm
    simp only [hm] at h
    split at h
    next => cases h
    next d hd =>
      obtain ⟨hlinks, rfl⟩ := declareAll_eq_ok_iff.mp hd
      have hp := hperm (r.draft mount.path.normalize links).links.entries
      have hnodup := (hp.map Prod.fst).nodup_iff.mpr (Table.nodup _)
      have hfind : ∀ p, Table.find p (reorder (r.draft mount.path.normalize links).links.entries) =
          linkAt mount.path.normalize links p := by
        intro p
        rw [← draft_links r]
        refine Option.ext fun t => ?_
        rw [Table.find_eq_some_iff hnodup, hp.mem_iff]
        exact (Table.find_eq_some_iff (Table.nodup _)).symm
      obtain ⟨m', hfold, hmount, hentries, hdropped⟩ := foldl_settle r hnodup
        (fun link hl => (Table.find_eq_some_iff (Table.nodup _)).mpr (hp.mem_iff.mp hl))
        { mount := mount.path.normalize, entries := (r.draft mount.path.normalize links).entries,
          dropped := (r.draft mount.path.normalize links).dropped }
        (r.draft mount.path.normalize links).log (fun _ _ => rfl)
      have hmm : m' = m := by
        have := congrArg Prod.fst hfold
        exact this.symm.trans (Except.ok.inj h)
      subst hmm
      rw [hmount]
      refine ⟨rfl, rfl, hlinks, fun p => ?_, ?_⟩
      · rw [hentries p, hfind p, draft_entries]
      · rw [hdropped]
        simp [draft, Draft.read]

theorem manifestIn_isOk {r : Resolver} {links : List Link} {mount : Spelling}
    (reorder : List (Path × String) → List (Path × String))
    (hm : mount.relative = .ok mount.path)
    (hlinks : ∀ l ∈ links, r.refusal? mount.path.normalize l = none) :
    ∃ m, (r.manifestIn reorder links mount).1 = .ok m := by
  have hd : r.declareAll mount.path.normalize {} links = (_, .ok ()) :=
    declareAll_eq_ok_iff.mpr ⟨hlinks, rfl⟩
  unfold manifestIn
  simp only [hm, hd]
  exact ⟨_, rfl⟩

/-- A manifest comes about exactly if its mount and all of its links are accepted. -/
theorem manifest_isOk_iff {r : Resolver} {links : List Link} {mount : Spelling} :
    (∃ m, (r.manifest links mount).1 = .ok m) ↔
      mount.relative = .ok mount.path ∧
        ∀ l ∈ links, r.refusal? mount.path.normalize l = none := by
  rw [manifest_eq_manifestIn]
  constructor
  · rintro ⟨m, h⟩
    obtain ⟨hrel, hmount, hlinks, -⟩ := manifestIn_eq_ok (fun order => .refl order) h
    exact ⟨hrel, hmount ▸ hlinks⟩
  · rintro ⟨hrel, hlinks⟩
    exact manifestIn_isOk id hrel hlinks

/-- It fails with what is wrong with its mount, or else with its first link that is refused. -/
theorem manifest_eq_error_iff {r : Resolver} {links : List Link} {mount : Spelling}
    {failure : Failure} :
    (r.manifest links mount).1 = .error failure ↔
      mount.relative = .error failure ∨ mount.relative = .ok mount.path ∧
        links.findSome? (r.refusal? mount.path.normalize) = some failure := by
  unfold manifest
  cases hm : mount.relative with
  | error e => simp
  | ok path =>
    obtain ⟨-, -, -, rfl⟩ := Spelling.relative_eq_ok_iff.mp hm
    rw [← declareAll_eq_error_iff (d := {})]
    dsimp only
    rcases r.declareAll mount.path.normalize {} links with ⟨d, _ | _⟩
    · simp
    · simp

/-- What is dropped for not settling is every link that settles on nothing. -/
theorem mem_unsettled_iff {r : Resolver} {mount p : Path} {links : List Link}
    {order : List (Path × String)} (hp : order.Perm (r.draft mount links).links.entries) :
    p ∈ (order.filter fun link => (r.landing? (r.draft mount links) link).isNone).map Prod.fst ↔
      linkAt mount links p ≠ none ∧ ¬ ∃ target, r.Settles mount links p target := by
  have hmem : ∀ t, (p, t) ∈ order ↔ linkAt mount links p = some t := by
    intro t
    rw [hp.mem_iff, ← draft_links r]
    exact (Table.find_eq_some_iff (Table.nodup _)).symm
  simp only [List.mem_map, List.mem_filter]
  constructor
  · rintro ⟨⟨q, t⟩, ⟨hin, hnone⟩, rfl⟩
    have ht := (hmem t).mp hin
    refine ⟨by simp [ht], ?_⟩
    rintro ⟨target, hs⟩
    rw [(settles_iff ht target).mp hs] at hnone
    cases hnone
  · rintro ⟨hl, hs⟩
    obtain ⟨t, ht⟩ := Option.ne_none_iff_exists'.mp hl
    refine ⟨(p, t), ⟨(hmem t).mpr ht, ?_⟩, rfl⟩
    cases hland : r.landing? (r.draft mount links) (p, t) with
    | none => rfl
    | some target => exact absurd ⟨target, (settles_iff ht target).mpr hland⟩ hs

/-- A manifest holds what the two maps say, in whatever order its links are settled. -/
theorem reference_of_manifestIn {r : Resolver} {links : List Link} {mount : Spelling}
    {m : Manifest} {reorder : List (Path × String) → List (Path × String)}
    (hperm : ∀ order, (reorder order).Perm order)
    (h : (r.manifestIn reorder links mount).1 = .ok m) : r.Reference links m := by
  obtain ⟨-, -, -, hentries, hdropped⟩ := manifestIn_eq_ok hperm h
  have hp := hperm (r.draft m.mount links).links.entries
  have hnodup := (hp.map Prod.fst).nodup_iff.mpr (Table.nodup _)
  constructor
  case unlinked =>
    intro p hl
    rw [hentries p, hl]
    rfl
  case settled =>
    intro p hl target hs
    obtain ⟨t, ht⟩ := Option.ne_none_iff_exists'.mp hl
    rw [hentries p, ht, Option.bind_some, (settles_iff ht target).mp hs, Option.some_or]
  case unsettled =>
    intro p hl hs
    obtain ⟨t, ht⟩ := Option.ne_none_iff_exists'.mp hl
    have hland : r.landing? (r.draft m.mount links) (p, t) = none := by
      rw [Option.eq_none_iff_forall_ne_some]
      exact fun target he => hs ⟨target, (settles_iff ht target).mpr he⟩
    constructor
    · rw [hdropped]
      exact List.mem_append_right _ ((mem_unsettled_iff hp).mpr ⟨hl, hs⟩)
    · rw [hentries p, ht, Option.bind_some, hland, Option.none_or]
  case dropped =>
    refine ⟨_, hdropped, ?_, fun p => mem_unsettled_iff hp⟩
    exact hnodup.sublist (List.filter_sublist.map Prod.fst)

/-! ## In the order of the links -/

theorem manifest_eq_ok {r : Resolver} {links : List Link} {mount : Spelling} {m : Manifest}
    (h : (r.manifest links mount).1 = .ok m) :
    mount.relative = .ok mount.path ∧ m.mount = mount.path.normalize ∧
    (∀ l ∈ links, r.refusal? mount.path.normalize l = none) ∧
    ∀ p, m.entries.get? p = ((linkAt mount.path.normalize links p).bind fun t =>
      r.landing? (r.draft mount.path.normalize links) (p, t)).or
        (r.directAt mount.path.normalize links p) := by
  have hid : ∀ order : List (Path × String), (id order).Perm order := fun order => .refl order
  obtain ⟨hrel, hmount, haccepted, hentries, -⟩ := manifestIn_eq_ok hid h
  rw [hmount] at haccepted hentries
  exact ⟨hrel, hmount, haccepted, hentries⟩

theorem reference_of_manifest {r : Resolver} {links : List Link} {mount : Spelling}
    {m : Manifest} (h : (r.manifest links mount).1 = .ok m) : r.Reference links m := by
  have hid : ∀ order : List (Path × String), (id order).Perm order := fun order => .refl order
  exact reference_of_manifestIn hid h

/-- Every manifest is the one that the two maps describe: what is first declared at a
location, unless a link there settles on the end of its chain. Settling the links in any
other order gives the same entries and drops the same links. -/
theorem manifest_meets_reference (r : Resolver) (links : List Link) (mount : Spelling)
    (m : Manifest) (h : (r.manifest links mount).1 = .ok m) :
    m.mount = mount.path.normalize ∧ r.Reference links m ∧
    ∀ reorder : List (Path × String) → List (Path × String),
      (∀ order, (reorder order).Perm order) →
      ∃ m', (r.manifestIn reorder links mount).1 = .ok m' ∧
        (∀ p, m'.entries.get? p = m.entries.get? p) ∧ m'.dropped.Perm m.dropped := by
  rw [manifest_eq_manifestIn] at h
  have hid : ∀ order : List (Path × String), (id order).Perm order := fun order => .refl order
  obtain ⟨hrel, hmount, hlinks, hentries, hdropped⟩ := manifestIn_eq_ok hid h
  refine ⟨hmount, reference_of_manifestIn hid h, fun reorder hperm => ?_⟩
  rw [hmount] at hlinks
  obtain ⟨m', h'⟩ := manifestIn_isOk reorder hrel hlinks
  obtain ⟨-, hmount', -, hentries', hdropped'⟩ := manifestIn_eq_ok hperm h'
  rw [hmount'] at hentries' hdropped'
  rw [hmount] at hentries hdropped
  refine ⟨m', h', fun p => by rw [hentries', hentries], ?_⟩
  rw [hdropped, hdropped']
  exact List.Perm.append_left _ (((hperm _).filter _).map _)

/-- Follows at most two links, and leaves out those that escape. -/
def brief : Resolver := ⟨.ofString "/root", .ignore, 2, by decide⟩

/-- Two declarations of one location, a chain that fits the limit, one that does not but
whose location is declared empty as well, and a cycle. -/
def tangle : List Link :=
  [⟨.ofString "a", some "/t", false⟩, ⟨.ofString "a", some "/u", false⟩,
   ⟨.ofString "d", none, false⟩, ⟨.ofString "d", some "c", false⟩,
   ⟨.ofString "c", some "b", false⟩, ⟨.ofString "b", some "./x/../a", false⟩,
   ⟨.ofString "e", some "f", false⟩, ⟨.ofString "f", some "e", false⟩,
   ⟨.ofString "g", some "../../h", false⟩]

theorem reference_of_tangle :
    ∃ m, (brief.manifest tangle (.ofString "fs")).1 = .ok m ∧ brief.Reference tangle m ∧
      m.entries.get? (.ofString "fs/c") = some (some "/t") ∧
      m.entries.get? (.ofString "fs/d") = some none ∧
      m.dropped.map Path.text = ["fs/g", "fs/d", "fs/e", "fs/f"] := by
  have hc : ((brief.manifest tangle (.ofString "fs")).1.toOption.map fun m =>
      (m.entries.get? (.ofString "fs/c"), m.entries.get? (.ofString "fs/d"),
        m.dropped.map Path.text)) =
      some (some (some "/t"), some none, ["fs/g", "fs/d", "fs/e", "fs/f"]) := by decide
  cases h : (brief.manifest tangle (.ofString "fs")).1 with
  | error e => simp [h, Except.toOption] at hc
  | ok m =>
    simp only [h, Except.toOption, Option.map_some, Option.some.injEq, Prod.mk.injEq] at hc
    exact ⟨m, rfl, (manifest_meets_reference brief tangle _ m h).2.1, hc⟩

end InputStaging.Resolver
