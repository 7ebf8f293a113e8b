import InputStaging.Fileset.Manifest

/-!
# What the links of a fileset declare

The first pass over the links of a fileset, as three lists that do not mention the
pass: the direct declarations, the links to other entries, and the links that are left
out. A link is refused for what it says itself, never for what was read before it, so
that a pass that ends has put exactly these lists into the draft.
-/

namespace InputStaging

namespace Link

/-- Where the link stands in a fileset that is mounted at `mount`. -/
def place (l : Link) (mount : Path) : Path := (mount / l.name).normalize

/-- What a relative target names, taken from the link's own directory. -/
def aim (l : Link) (mount : Path) (target : String) : Path :=
  (l.place mount).parent / Path.ofString target

/-- A relative target names a path in the fileset. -/
def staysInside (l : Link) (mount : Path) (target : String) : Bool :=
  !(l.aim mount target).climbsOut && (l.aim mount target).isWithin mount

/-- The target of a link to another entry of the fileset. -/
def insideTarget? (l : Link) (mount : Path) : Option String :=
  l.relativeTarget?.filter (l.staysInside mount)

def escapingTarget? (l : Link) (mount : Path) : Option String :=
  l.relativeTarget?.filter fun target => !l.staysInside mount target

/-- A link declares its target itself, points into the fileset, or escapes from it. -/
theorem reading (l : Link) (mount : Path) :
    (l.relativeTarget? = none ∧ l.insideTarget? mount = none ∧ l.escapingTarget? mount = none ∧
      l.declaration mount (l.place mount) = .direct l.target?) ∨
    (∃ target, l.relativeTarget? = some target ∧ l.insideTarget? mount = some target ∧
      l.escapingTarget? mount = none ∧
      l.declaration mount (l.place mount) = .inside target) ∨
    (∃ target, l.relativeTarget? = some target ∧ l.insideTarget? mount = none ∧
      l.escapingTarget? mount = some target ∧
      l.declaration mount (l.place mount) = .escaping target (l.aim mount target)) := by
  unfold declaration insideTarget? escapingTarget?
  cases l.relativeTarget? with
  | none => exact .inl ⟨rfl, rfl, rfl, rfl⟩
  | some target =>
    show _ ∨ _ ∨ _
    cases hs : l.staysInside mount target with
    | true => exact .inr (.inl ⟨target, rfl, by simp [hs], by simp [hs], if_pos hs⟩)
    | false =>
      have hn : ¬ l.staysInside mount target = true := by simp [hs]
      exact .inr (.inr ⟨target, rfl, by simp [hs], by simp [hs], if_neg hn⟩)

end Link

namespace Resolver

/-- The target that a link declares by itself: that of a link that is not relative, and
that of an escaping link where those are resolved. -/
def directTarget? (r : Resolver) (mount : Path) (l : Link) : Option (Option String) :=
  if l.isRelative then
    if r.policy = .resolve then
      (l.escapingTarget? mount).map fun target =>
        some (r.execRoot / (l.aim mount target).normalize).text
    else none
  else some l.target?

def directs (r : Resolver) (mount : Path) (links : List Link) : List (Path × Option String) :=
  links.filterMap fun l => (r.directTarget? mount l).map fun target => (l.place mount, target)

def insides (mount : Path) (links : List Link) : List (Path × String) :=
  links.filterMap fun l => (l.insideTarget? mount).map fun target => (l.place mount, target)

/-- The locations of the links that the policy leaves out, in order. -/
def ignored (r : Resolver) (mount : Path) (links : List Link) : List Path :=
  if r.policy = .ignore then
    (links.filter fun l => (l.escapingTarget? mount).isSome).map fun l => l.place mount
  else []

/-- What is told of a link when it is read. -/
def notice (r : Resolver) (mount : Path) (l : Link) : List Event :=
  match l.escapingTarget? mount, r.policy with
  | some target, .ignore => [.linkIgnored (l.place mount) target mount]
  | some target, .resolve =>
    [.linkResolved (l.place mount) (r.execRoot / (l.aim mount target).normalize)]
  | _, _ => []

/-- Why a link is refused, if it is. -/
def refusal? (r : Resolver) (mount : Path) (l : Link) : Option Failure :=
  match locate mount l, l.escapingTarget? mount with
  | .error e, _ => some e
  | .ok _, none => none
  | .ok _, some target =>
    match r.policy with
    | .error => some (.forbiddenLink target (l.place mount))
    | .ignore => none
    | .resolve =>
      if (l.aim mount target).climbsOut then some (.forbiddenLink target (l.place mount))
      else none
    | .other label => some (.unknownPolicy label)

/-- The draft after links that were not refused. -/
def Draft.read (r : Resolver) (mount : Path) (d : Draft) (links : List Link) : Draft where
  entries := (r.directs mount links).foldl (fun t e => t.insertNew e.1 e.2) d.entries
  links := (insides mount links).foldl (fun t e => t.insert e.1 e.2) d.links
  dropped := d.dropped ++ r.ignored mount links
  log := d.log ++ links.flatMap (r.notice mount)

/-- What is declared at a location is declared by a link that stands there. -/
theorem exists_link_of_mem {α : Type} {declared? : Link → Option α} {mount p : Path}
    {links : List Link} {target : α}
    (h : (p, target) ∈ links.filterMap fun l =>
      (declared? l).map fun target => (l.place mount, target)) :
    ∃ l ∈ links, l.place mount = p ∧ declared? l = some target := by
  obtain ⟨l, hl, hd⟩ := List.mem_filterMap.mp h
  obtain ⟨t, ht, he⟩ := Option.map_eq_some_iff.mp hd
  obtain ⟨hplace, rfl⟩ := Prod.mk.inj he
  exact ⟨l, hl, hplace, ht⟩

theorem directs_cons (r : Resolver) (mount : Path) (l : Link) (links : List Link) :
    r.directs mount (l :: links) = r.directs mount [l] ++ r.directs mount links := by
  rw [directs, ← List.singleton_append, List.filterMap_append]
  rfl

theorem insides_cons (mount : Path) (l : Link) (links : List Link) :
    insides mount (l :: links) = insides mount [l] ++ insides mount links := by
  rw [insides, ← List.singleton_append, List.filterMap_append]
  rfl

theorem ignored_cons (r : Resolver) (mount : Path) (l : Link) (links : List Link) :
    r.ignored mount (l :: links) = r.ignored mount [l] ++ r.ignored mount links := by
  unfold ignored
  split
  · rw [← List.singleton_append, List.filter_append, List.map_append]
  · rfl

theorem Draft.read_nil (r : Resolver) (mount : Path) (d : Draft) : d.read r mount [] = d := by
  simp [Draft.read, directs, insides, ignored]

theorem Draft.read_cons (r : Resolver) (mount : Path) (d : Draft) (l : Link)
    (links : List Link) :
    d.read r mount (l :: links) = (d.read r mount [l]).read r mount links := by
  simp only [Draft.read]
  rw [directs_cons, insides_cons, ignored_cons]
  simp only [List.foldl_append, List.append_assoc, List.flatMap_cons, List.flatMap_nil,
    List.append_nil]

theorem Draft.read_single (r : Resolver) (mount : Path) (d : Draft) (l : Link) :
    d.read r mount [l] =
      { entries := ((r.directTarget? mount l).map (d.entries.insertNew (l.place mount))).getD
          d.entries
        links := ((l.insideTarget? mount).map (d.links.insert (l.place mount))).getD d.links
        dropped := d.dropped ++ r.ignored mount [l]
        log := d.log ++ r.notice mount l } := by
  unfold Draft.read directs insides
  congr 1
  · cases h : r.directTarget? mount l <;> simp [h]
  · cases h : l.insideTarget? mount <;> simp [h]
  · simp

/-- A link is accepted at a place that does not leave the fileset. -/
theorem locate_eq_ok {mount p : Path} {l : Link} (h : locate mount l = .ok p) :
    p = l.place mount ∧ l.name.isAbsolute = false ∧ (mount / l.name).climbsOut = false ∧
      (mount / l.name).isWithin mount = true := by
  unfold locate at h
  cases hn : (Spelling.ofPath l.name).relative with
  | error e => simp [hn, bind, Except.bind] at h
  | ok name =>
    obtain ⟨-, ha, -, rfl⟩ := Spelling.relative_eq_ok_iff.mp hn
    simp only [hn, bind, Except.bind, pure, Except.pure] at h
    split at h
    · cases h
    next hc =>
      rw [Bool.or_eq_true, not_or, Bool.not_eq_true, Bool.not_eq_true, Bool.not_eq_false'] at hc
      exact ⟨(Except.ok.inj h).symm, ha, hc⟩

theorem located_of_accepted {r : Resolver} {mount : Path} {l : Link}
    (h : r.refusal? mount l = none) : locate mount l = .ok (l.place mount) := by
  cases hloc : locate mount l with
  | error e => simp [refusal?, hloc] at h
  | ok p => rw [(locate_eq_ok hloc).1]

/-- Reading one link: it is refused whatever was read before, or it is read. -/
theorem declare_eq (r : Resolver) (mount : Path) (d : Draft) (l : Link) :
    r.declare mount d l =
      match r.refusal? mount l with
      | some e => .error e
      | none => .ok (d.read r mount [l]) := by
  cases hloc : locate mount l with
  | error e => simp [declare, refusal?, hloc, bind, Except.bind]
  | ok p =>
    obtain rfl := (locate_eq_ok hloc).1
    simp only [declare, refusal?, hloc, bind, Except.bind, pure, Except.pure]
    rw [Draft.read_single]
    rcases l.reading mount with ⟨hr, hi, he, hd⟩ | ⟨t, hr, hi, he, hd⟩ | ⟨t, hr, hi, he, hd⟩
    · simp [hd, hi, he, directTarget?, ignored, notice, Link.isRelative, hr]
    · simp [hd, hi, he, directTarget?, ignored, notice, Link.isRelative, hr]
    · simp only [hd, hi, he, directTarget?, ignored, notice, Link.isRelative, hr, declareEscaping]
      cases hp : r.policy with
      | error => rfl
      | ignore => simp [he]
      | resolve =>
        by_cases hc : (l.aim mount t).climbsOut = true <;> simp [hc]
      | other label => rfl

/-- Reading comes to its end exactly if no link is refused, and then it has read them all. -/
theorem declareAll_eq_ok_iff {r : Resolver} {mount : Path} {d d' : Draft} {links : List Link} :
    r.declareAll mount d links = (d', .ok ()) ↔
      (∀ l ∈ links, r.refusal? mount l = none) ∧ d' = d.read r mount links := by
  induction links generalizing d with
  | nil =>
    rw [Draft.read_nil]
    simp [declareAll, eq_comm]
  | cons l rest ih =>
    rw [declareAll, declare_eq, Draft.read_cons r mount d l rest]
    cases hl : r.refusal? mount l with
    | some e => simp [hl]
    | none => simp [hl, ih]

/-- Reading breaks off at the first link that is refused. -/
theorem declareAll_eq_error_iff {r : Resolver} {mount : Path} {d : Draft} {links : List Link}
    {failure : Failure} :
    (r.declareAll mount d links).2 = .error failure ↔
      links.findSome? (r.refusal? mount) = some failure := by
  induction links generalizing d with
  | nil => simp [declareAll]
  | cons l rest ih =>
    rw [declareAll, declare_eq, List.findSome?_cons]
    cases r.refusal? mount l with
    | some e => simp
    | none => exact ih

end Resolver

end InputStaging
