import InputStaging.Proofs.Fileset.Permuted
import InputStaging.Proofs.Fileset.Sources
import Mathlib.Data.List.Nodup

/-!
# What becomes of every link

Each location that is declared ends up among the entries of the manifest or among the links
that were left out, and for each of those there is one warning that names it, in the same
order. Links are left out in either pass: by the policy when they are read, and because
their chain leads nowhere when they are settled.
-/

namespace InputStaging

namespace Event

/-- The location of the link that was left out, where that is what is told. -/
def leftOut? : Event → Option Path
  | linkIgnored location .. | chainTooLong location .. | linkCycle location ..
  | linkDangling location .. => some location
  | _ => none

/-- The event tells that the link at the location was left out, and names it. -/
def TellsOf (e : Event) (location : Path) : Prop :=
  e.leftOut? = some location ∧ ∃ before after, e.message = before ++ location.text ++ after

/-- The warning names the location that it is about. -/
theorem exists_message_eq {e : Event} {location : Path} (h : e.leftOut? = some location) :
    ∃ before after, e.message = before ++ location.text ++ after := by
  cases e with
  | linkIgnored p target mount =>
    obtain rfl : p = location := Option.some.inj h
    refine ⟨"Ignoring fileset symlink ", s!" -> {target}: target is outside {mount.text}", ?_⟩
    show s!"Ignoring fileset symlink {p.text} -> {target}: target is outside {mount.text}" = _
    simp only [String.append_assoc, ToString.toString]
  | chainTooLong p hops limit =>
    obtain rfl : p = location := Option.some.inj h
    refine ⟨"Symlink ",
      s!" is part of a chain of length at least {hops}, exceeding the limit of {limit}", ?_⟩
    show s!"Symlink {p.text} is part of a chain of length at least {hops}, exceeding the limit of {limit}" = _
    simp only [String.append_assoc, ToString.toString]
  | linkCycle p seen =>
    obtain rfl : p = location := Option.some.inj h
    refine ⟨"Symlink ", " forms a symlink cycle: " ++ ", ".intercalate (seen.map Path.text), ?_⟩
    show s!"Symlink {p.text} forms a symlink cycle: " ++ _ = _
    simp only [String.append_assoc, ToString.toString]
  | linkDangling p missing mount =>
    obtain rfl : p = location := Option.some.inj h
    refine ⟨"Symlink ",
      s!" (transitively) points to {missing.text}, which is not an entry of {mount.text}", ?_⟩
    show s!"Symlink {p.text} (transitively) points to {missing.text}, which is not an entry of {mount.text}" = _
    simp only [String.append_assoc, ToString.toString]
  | _ => cases h

/-- An event that leaves a location out says so in its message. -/
theorem tellsOf_of_leftOut {e : Event} {location : Path} (h : e.leftOut? = some location) :
    e.TellsOf location :=
  ⟨h, exists_message_eq h⟩

def warnings (log : List Event) : List Event := log.filter (·.level = .warning)

theorem warnings_append (log log' : List Event) :
    warnings (log ++ log') = warnings log ++ warnings log' :=
  List.filter_append ..

/-- Where one item is warned of as it is left out, so is a list of them, in order. -/
theorem tells_flatMap {α : Type} {told : α → List Event} {left : List α → List Path}
    (hnil : left [] = []) (hcons : ∀ a rest, left (a :: rest) = left [a] ++ left rest)
    (h : ∀ a, List.Forall₂ TellsOf (warnings (told a)) (left [a])) (items : List α) :
    List.Forall₂ TellsOf (warnings (items.flatMap told)) (left items) := by
  induction items with
  | nil =>
    rw [hnil]
    exact .nil
  | cons a rest ih =>
    rw [List.flatMap_cons, warnings_append, hcons]
    exact List.rel_append (h a) ih

end Event

namespace Resolver

variable {r : Resolver} {mount p : Path} {l l' : Link} {links : List Link}

/-! ## The warnings of the two passes -/

/-- Each link that the policy leaves out is warned of, and no other one. -/
theorem notice_tells (r : Resolver) (mount : Path) (l : Link) :
    List.Forall₂ Event.TellsOf (Event.warnings (r.notice mount l)) (r.ignored mount [l]) := by
  unfold notice ignored
  cases he : l.escapingTarget? mount with
  | none => simp [he, Event.warnings]
  | some target =>
    cases hp : r.policy with
    | ignore => simpa [he, Event.warnings, Event.level] using Event.tellsOf_of_leftOut rfl
    | error => simp [Event.warnings]
    | resolve => simp [Event.warnings, Event.level]
    | other label => simp [Event.warnings]

theorem notices_tell (r : Resolver) (mount : Path) (links : List Link) :
    List.Forall₂ Event.TellsOf (Event.warnings (links.flatMap (r.notice mount)))
      (r.ignored mount links) :=
  Event.tells_flatMap (by simp [ignored]) (ignored_cons r mount) (notice_tells r mount) links

/-- The locations that are left out because their chain leads nowhere, in order. -/
def stranded (r : Resolver) (d : Draft) (order : List (Path × String)) : List Path :=
  (order.filter fun link => (r.landing? d link).isNone).map Prod.fst

/-- Each link that does not settle is warned of, and no other one. -/
theorem settlingNotice_tells (r : Resolver) (d : Draft) (mount : Path) (link : Path × String) :
    List.Forall₂ Event.TellsOf (Event.warnings (r.settlingNotice d mount link))
      (r.stranded d [link]) := by
  unfold settlingNotice stranded landing?
  cases hc : chase d.links r.maxHops link.1 link.2 [] with
  | tooLong => simpa [hc, Event.warnings, Event.level] using Event.tellsOf_of_leftOut rfl
  | cycle seen => simpa [hc, Event.warnings, Event.level] using Event.tellsOf_of_leftOut rfl
  | arrived at_ =>
    cases hd : d.entries.get? at_ with
    | none => simpa [hc, hd, Event.warnings, Event.level] using Event.tellsOf_of_leftOut rfl
    | some target => simp [hc, hd, Event.warnings]

theorem stranded_cons (r : Resolver) (d : Draft) (link : Path × String)
    (order : List (Path × String)) :
    r.stranded d (link :: order) = r.stranded d [link] ++ r.stranded d order := by
  unfold stranded
  rw [← List.singleton_append, List.filter_append, List.map_append]

theorem settlingNotices_tell (r : Resolver) (d : Draft) (mount : Path)
    (order : List (Path × String)) :
    List.Forall₂ Event.TellsOf (Event.warnings (order.flatMap (r.settlingNotice d mount)))
      (r.stranded d order) :=
  Event.tells_flatMap rfl (stranded_cons r d) (settlingNotice_tells r d mount) order

/-- What is left out and what is told, both passes together. -/
theorem manifest_told {mount : Spelling} {m : Manifest} {log : List Event}
    (h : r.manifest links mount = (.ok m, log)) :
    let d := r.draft m.mount links
    m.dropped = r.ignored m.mount links ++ r.stranded d d.links.entries ∧
      log = links.flatMap (r.notice m.mount) ++
        d.links.entries.flatMap (r.settlingNotice d m.mount) := by
  obtain ⟨hrel, hmount, haccepted, -⟩ := manifest_eq_ok (congrArg Prod.fst h)
  have hread : r.declareAll mount.path.normalize {} links =
      (r.draft mount.path.normalize links, .ok ()) := declareAll_eq_ok_iff.mpr ⟨haccepted, rfl⟩
  unfold manifest at h
  simp only [hrel, hread] at h
  rw [hmount]
  generalize hd : r.draft mount.path.normalize links = d at h ⊢
  obtain ⟨m', hfold, -, -, hdropped⟩ := foldl_settle r
    (Table.nodup d.links) (fun link hl => (Table.find_eq_some_iff (Table.nodup _)).mpr hl)
    { mount := mount.path.normalize, entries := d.entries, dropped := d.dropped } d.log
    (fun _ _ => rfl)
  rw [hfold] at h
  obtain ⟨hm, hlog⟩ := Prod.mk.inj h
  obtain rfl := Except.ok.inj hm
  subst hd
  refine ⟨?_, ?_⟩
  · rw [hdropped]
    simp [draft, Draft.read, stranded]
  · rw [← hlog]
    simp [draft, Draft.read]

/-! ## Every location -/

theorem mem_keys_iff {m : Manifest} :
    p ∈ m.entries.keys ↔ ∃ target, m.entries.get? p = some target := by
  rw [← Table.contains_iff, Table.contains, Option.isSome_iff_exists]

theorem mem_ignored_iff :
    p ∈ r.ignored mount links ↔ r.policy = .ignore ∧
      ∃ l ∈ links, (l.escapingTarget? mount).isSome = true ∧ l.place mount = p := by
  unfold ignored
  split
  · simp [*, and_assoc]
  · simp [*]

theorem mem_of_declared {α : Type} {declared? : Link → Option α} {target : α} (hl : l ∈ links)
    (h : declared? l = some target) :
    (l.place mount, target) ∈ links.filterMap fun l =>
      (declared? l).map fun target => (l.place mount, target) :=
  List.mem_filterMap.mpr ⟨l, hl, by rw [h]; rfl⟩

theorem directAt_ne_none {target : Option String} (hl : l ∈ links)
    (h : r.directTarget? mount l = some target) : r.directAt mount links (l.place mount) ≠ none :=
  fun hnone => Table.find_eq_none_iff.mp hnone (List.mem_map_of_mem (mem_of_declared hl h))

theorem linkAt_ne_none {target : String} (hl : l ∈ links)
    (h : l.insideTarget? mount = some target) : linkAt mount links (l.place mount) ≠ none :=
  fun hnone => Table.find_eq_none_iff.mp hnone
    (List.mem_map_of_mem (List.mem_reverse.mpr (mem_of_declared hl h)))

/-- An accepted link is direct, or leads to another entry, or is left out by the policy. -/
theorem trace_of_accepted (h : r.refusal? mount l = none) :
    (∃ target, r.directTarget? mount l = some target) ∨
      (∃ target, l.insideTarget? mount = some target) ∨
      r.policy = .ignore ∧ (l.escapingTarget? mount).isSome = true := by
  rcases l.reading mount with ⟨hr, -⟩ | ⟨target, -, hi, -⟩ | ⟨target, hr, -, he, -⟩
  · exact .inl ⟨l.target?, by simp [directTarget?, Link.isRelative, hr]⟩
  · exact .inr (.inl ⟨target, hi⟩)
  · rcases escapes_of_accepted h he with hp | ⟨hp, -⟩
    · exact .inr (.inr ⟨hp, by simp [he]⟩)
    · exact .inl (by simp [directTarget?, Link.isRelative, hr, hp, he])

/-- A link is only one of these. -/
theorem directTarget?_of_inside {target : String} (h : l.insideTarget? mount = some target) :
    r.directTarget? mount l = none ∧ l.escapingTarget? mount = none := by
  rcases l.reading mount with ⟨-, hi, -⟩ | ⟨t, hr, -, he, -⟩ | ⟨t, -, hi, -⟩
  · rw [h] at hi
    cases hi
  · exact ⟨by simp [directTarget?, Link.isRelative, hr, he], he⟩
  · rw [h] at hi
    cases hi

theorem directTarget?_of_ignored (hp : r.policy = .ignore)
    (h : (l.escapingTarget? mount).isSome = true) : r.directTarget? mount l = none := by
  obtain ⟨target, he⟩ := Option.isSome_iff_exists.mp h
  simp [directTarget?, Link.isRelative, Link.relativeTarget?_of_escapes he, hp]

variable {m : Manifest} {log : List Event}

/-- A location with something direct is in the manifest, even if a link settles there. -/
theorem mem_keys_of_directAt (href : r.Reference links m)
    (h : r.directAt m.mount links p ≠ none) : p ∈ m.entries.keys := by
  obtain ⟨target, ht⟩ := Option.ne_none_iff_exists'.mp h
  by_cases hl : linkAt m.mount links p = none
  · exact mem_keys_iff.mpr ⟨target, (href.unlinked p hl).trans ht⟩
  · by_cases hs : ∃ target, r.Settles m.mount links p target
    · obtain ⟨target', hs⟩ := hs
      exact mem_keys_iff.mpr ⟨target', href.settled p hl target' hs⟩
    · exact mem_keys_iff.mpr ⟨target, (href.unsettled p hl hs).2.trans ht⟩

/-- A link that settles is in the manifest, and one that does not is dropped. -/
theorem mem_keys_or_dropped_of_linkAt (href : r.Reference links m)
    (h : linkAt m.mount links p ≠ none) : p ∈ m.entries.keys ∨ p ∈ m.dropped := by
  by_cases hs : ∃ target, r.Settles m.mount links p target
  · obtain ⟨target, hs⟩ := hs
    exact .inl (mem_keys_iff.mpr ⟨target, href.settled p h target hs⟩)
  · exact .inr (href.unsettled p h hs).1

/-- No accepted link is lost: its location is in the manifest, or it was dropped. -/
theorem kept_of_accepted (href : r.Reference links m) (hl : l ∈ links)
    (h : r.refusal? m.mount l = none) :
    l.place m.mount ∈ m.entries.keys ∨ l.place m.mount ∈ m.dropped := by
  rcases trace_of_accepted h with ⟨target, ht⟩ | ⟨target, ht⟩ | ⟨hp, he⟩
  · exact .inl (mem_keys_of_directAt href (directAt_ne_none hl ht))
  · exact mem_keys_or_dropped_of_linkAt href (linkAt_ne_none hl ht)
  · obtain ⟨unsettled, hdropped, -⟩ := href.dropped
    rw [hdropped]
    exact .inr (List.mem_append_left _ (mem_ignored_iff.mpr ⟨hp, l, hl, he, rfl⟩))

/-- What a location holds was declared there: directly, or by a link that settled. -/
theorem directAt_or_linkAt_of_key (href : r.Reference links m) (h : p ∈ m.entries.keys) :
    r.directAt m.mount links p ≠ none ∨ linkAt m.mount links p ≠ none := by
  by_cases hl : linkAt m.mount links p = none
  · obtain ⟨target, ht⟩ := mem_keys_iff.mp h
    rw [href.unlinked p hl] at ht
    exact .inl (by simp [ht])
  · exact .inr hl

/-! ## Locations that are declared once -/

section
variable (hdistinct : (links.map (·.place m.mount)).Nodup)
include hdistinct

theorem eq_of_place (hl : l ∈ links) (hl' : l' ∈ links)
    (h : l.place m.mount = l'.place m.mount) : l = l' :=
  List.inj_on_of_nodup_map hdistinct hl hl' h

/-- No location has a link to another entry and something else besides. -/
theorem alone_of_linkAt (h : linkAt m.mount links p ≠ none) :
    r.directAt m.mount links p = none ∧ p ∉ r.ignored m.mount links := by
  obtain ⟨t, ht⟩ := Option.ne_none_iff_exists'.mp h
  obtain ⟨l, hl, rfl, hi⟩ := exists_link_of_linkAt ht
  obtain ⟨hdirect, hescapes⟩ := directTarget?_of_inside (r := r) hi
  constructor
  · rw [Option.eq_none_iff_forall_ne_some]
    intro target hat
    obtain ⟨l', hl', hplace, hd⟩ := exists_link_of_directAt hat
    rw [eq_of_place hdistinct hl' hl hplace, hdirect] at hd
    cases hd
  · intro hignored
    obtain ⟨-, l', hl', he, hplace⟩ := mem_ignored_iff.mp hignored
    rw [eq_of_place hdistinct hl' hl hplace, hescapes] at he
    cases he

/-- No location is left out by the policy and has something besides. -/
theorem alone_of_ignored (h : p ∈ r.ignored m.mount links) :
    r.directAt m.mount links p = none ∧ linkAt m.mount links p = none := by
  refine ⟨?_, Decidable.byContradiction fun hl => (alone_of_linkAt hdistinct hl).2 h⟩
  obtain ⟨hp, l, hl, he, rfl⟩ := mem_ignored_iff.mp h
  rw [Option.eq_none_iff_forall_ne_some]
  intro target hat
  obtain ⟨l', hl', hplace, hd⟩ := exists_link_of_directAt hat
  rw [eq_of_place hdistinct hl' hl hplace, directTarget?_of_ignored hp he] at hd
  cases hd

theorem ignored_nodup : (r.ignored m.mount links).Nodup := by
  unfold ignored
  split
  · exact hdistinct.sublist (List.filter_sublist.map _)
  · exact List.nodup_nil

/-- Nothing is dropped twice. -/
theorem dropped_nodup (href : r.Reference links m) : m.dropped.Nodup := by
  obtain ⟨unsettled, hdropped, hnodup, hmem⟩ := href.dropped
  rw [hdropped, List.nodup_append]
  refine ⟨ignored_nodup hdistinct, hnodup, ?_⟩
  rintro p hp q hq rfl
  exact ((hmem p).mp hq).1 (alone_of_ignored hdistinct hp).2

/-- Nothing is both in the manifest and dropped. -/
theorem not_dropped_of_key (href : r.Reference links m) (h : p ∈ m.entries.keys) :
    p ∉ m.dropped := by
  obtain ⟨unsettled, hdropped, -, hmem⟩ := href.dropped
  rw [hdropped, List.mem_append, not_or]
  constructor
  · intro hp
    obtain ⟨hdirect, hlink⟩ := alone_of_ignored hdistinct hp
    exact (directAt_or_linkAt_of_key href h).elim (· hdirect) (· hlink)
  · intro hp
    obtain ⟨hlink, hs⟩ := (hmem p).mp hp
    obtain ⟨target, ht⟩ := mem_keys_iff.mp h
    rw [(href.unsettled p hlink hs).2, (alone_of_linkAt hdistinct hlink).1] at ht
    cases ht

end

/-- A location that is in the manifest or was left out is the place of some link. -/
theorem exists_link_of_key_or_dropped (href : r.Reference links m)
    (h : p ∈ m.entries.keys ∨ p ∈ m.dropped) : p ∈ links.map (·.place m.mount) := by
  obtain ⟨unsettled, hdropped, -, hmem⟩ := href.dropped
  have hlinkAt : linkAt m.mount links p ≠ none → p ∈ links.map (·.place m.mount) := by
    intro hlink
    obtain ⟨t, ht⟩ := Option.ne_none_iff_exists'.mp hlink
    obtain ⟨l, hl, hplace, -⟩ := exists_link_of_linkAt ht
    exact List.mem_map.mpr ⟨l, hl, hplace⟩
  rcases h with h | h
  · rcases directAt_or_linkAt_of_key href h with hdirect | hlink
    · obtain ⟨target, ht⟩ := Option.ne_none_iff_exists'.mp hdirect
      obtain ⟨l, hl, hplace, -⟩ := exists_link_of_directAt ht
      exact List.mem_map.mpr ⟨l, hl, hplace⟩
    · exact hlinkAt hlink
  · rw [hdropped, List.mem_append] at h
    rcases h with h | h
    · obtain ⟨-, l, hl, -, hplace⟩ := mem_ignored_iff.mp h
      exact List.mem_map.mpr ⟨l, hl, hplace⟩
    · exact hlinkAt ((hmem p).mp h).1

/-- What has become of the links of a fileset. -/
structure Accounts (r : Resolver) (links : List Link) (m : Manifest) (log : List Event) :
    Prop where
  /-- Every link has a place in the fileset. -/
  located : ∀ l ∈ links, locate m.mount l = .ok (l.place m.mount)
  /-- No location is lost. -/
  kept : ∀ l ∈ links, l.place m.mount ∈ m.entries.keys ∨ l.place m.mount ∈ m.dropped
  /-- There is one warning for each link that was left out, in the same order, and no other. -/
  told : List.Forall₂ Event.TellsOf (Event.warnings log) m.dropped
  /-- Where no two links stand at one location, each location is accounted for once. -/
  once : (links.map (·.place m.mount)).Nodup → m.dropped.Nodup ∧
    (∀ p ∈ m.entries.keys, p ∉ m.dropped) ∧
    ∀ p, p ∈ links.map (·.place m.mount) ↔ p ∈ m.entries.keys ∨ p ∈ m.dropped

theorem manifest_accounts (r : Resolver) (links : List Link) (mount : Spelling) (m : Manifest)
    (log : List Event) (h : r.manifest links mount = (.ok m, log)) : r.Accounts links m log := by
  have href := reference_of_manifest (congrArg Prod.fst h)
  obtain ⟨-, hmount, haccepted, -⟩ := manifest_eq_ok (congrArg Prod.fst h)
  rw [← hmount] at haccepted
  have hkept : ∀ l ∈ links, l.place m.mount ∈ m.entries.keys ∨ l.place m.mount ∈ m.dropped :=
    fun l hl => kept_of_accepted href hl (haccepted l hl)
  constructor
  case located => exact fun l hl => located_of_accepted (haccepted l hl)
  case kept => exact hkept
  case told =>
    obtain ⟨hdropped, hlog⟩ := manifest_told h
    rw [hdropped, hlog, Event.warnings_append]
    exact List.rel_append (notices_tell r m.mount links) (settlingNotices_tell r _ m.mount _)
  case once =>
    intro hdistinct
    refine ⟨dropped_nodup hdistinct href, fun p hp => not_dropped_of_key hdistinct href hp,
      fun p => ⟨fun hp => ?_, exists_link_of_key_or_dropped href⟩⟩
    obtain ⟨l, hl, rfl⟩ := List.mem_map.mp hp
    exact hkept l hl

/-- One link for each of the ways in which a link may end: direct, empty, settled, ignored,
dangling, and in a cycle; the last one is part of a chain of four. -/
def fates : List Link :=
  [⟨.ofString "a", some "/t", false⟩, ⟨.ofString "e", none, false⟩,
   ⟨.ofString "b", some "a", false⟩, ⟨.ofString "g", some "../../h", false⟩,
   ⟨.ofString "n", some "none", false⟩, ⟨.ofString "c", some "c", false⟩,
   ⟨.ofString "x", some "b", false⟩, ⟨.ofString "y", some "x", false⟩,
   ⟨.ofString "z", some "y", false⟩]

theorem accounts_of_fates :
    let r := { brief with maxHops := 3 }
    ∃ m log, r.manifest fates (.ofString "fs") = (.ok m, log) ∧ r.Accounts fates m log ∧
      m.dropped.map Path.text = ["fs/g", "fs/n", "fs/c", "fs/z"] ∧ m.dropped.Nodup := by
  intro r
  have hc : ((r.manifest fates (.ofString "fs")).1.toOption.map fun m =>
      (m.mount, m.dropped.map Path.text)) =
      some (.ofString "fs", ["fs/g", "fs/n", "fs/c", "fs/z"]) := by decide +kernel
  rcases h : r.manifest fates (.ofString "fs") with ⟨_ | m, log⟩
  · simp [h, Except.toOption] at hc
  · simp only [h, Except.toOption, Option.map_some, Option.some.injEq, Prod.mk.injEq] at hc
    have haccounts := manifest_accounts r fates _ m log h
    refine ⟨m, log, rfl, haccounts, hc.2, (haccounts.once ?_).1⟩
    rw [hc.1]
    decide

end Resolver

end InputStaging
