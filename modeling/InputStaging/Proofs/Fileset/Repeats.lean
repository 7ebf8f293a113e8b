import InputStaging.Proofs.Fileset.Reference

/-!
# Repeated declarations

A location of a fileset may be declared more than once. Of its direct declarations only
the first counts, and where a link to another entry settles none of them does. A link to
another entry is not ignored for coming late: if it settles it replaces what was declared
directly, and if it does not it still stops the chains that go through its location.
-/

namespace InputStaging

namespace Link

/-- The links that repeat no link before them; what is left out counts as standing before. -/
def withoutRepeats (repeats : Link → Link → Bool) : List Link → List Link
  | [] => []
  | l :: rest => l :: (withoutRepeats repeats rest).filter fun later => !repeats l later

def samePlace (mount : Path) (l l' : Link) : Bool := l.place mount = l'.place mount

/-- Links are left out, never moved or added. -/
theorem withoutRepeats_sublist (repeats : Link → Link → Bool) (links : List Link) :
    (withoutRepeats repeats links).Sublist links := by
  induction links with
  | nil => exact .slnil
  | cons l rest ih => exact (List.filter_sublist.trans ih).cons_cons l

end Link

namespace Resolver

variable {r : Resolver} {mount p : Path} {links : List Link}

/-! ## Two manifests -/

/-- A link to another entry stands at the location, and settles. -/
def takenOver (r : Resolver) (mount : Path) (links : List Link) (p : Path) : Bool :=
  (linkAt mount links p).any fun t => (r.landing? (r.draft mount links) (p, t)).isSome

/-- What is staged follows from the links to other entries, and from the direct declarations
at the locations that none of these takes over. -/
theorem entries_congr {links' : List Link} {mount : Spelling} {m m' : Manifest}
    (h : (r.manifest links mount).1 = .ok m) (h' : (r.manifest links' mount).1 = .ok m')
    (hlinks : linkAt mount.path.normalize links' = linkAt mount.path.normalize links)
    (hdirects : ∀ p, r.takenOver mount.path.normalize links p = false →
      r.directAt mount.path.normalize links' p = r.directAt mount.path.normalize links p) :
    ∀ p, m'.entries.get? p = m.entries.get? p := by
  obtain ⟨-, -, -, hentries⟩ := manifest_eq_ok h
  obtain ⟨-, -, -, hentries'⟩ := manifest_eq_ok h'
  intro p
  rw [hentries p, hentries' p, hlinks]
  cases hp : linkAt mount.path.normalize links p with
  | none => exact hdirects p (by simp [takenOver, hp])
  | some t =>
    -- A chain ends where no link stands, so that no direct declaration it finds is taken over.
    have hland : r.landing? (r.draft mount.path.normalize links') (p, t) =
        r.landing? (r.draft mount.path.normalize links) (p, t) := by
      refine Option.ext fun target => ?_
      rw [← settles_iff (hlinks ▸ hp), ← settles_iff hp, Settles, Settles, hlinks]
      refine exists_congr fun k => and_congr_right fun _ => exists_congr fun finish =>
        and_congr_right fun hleads => ?_
      rw [hdirects finish (by simp [takenOver, hleads.free])]
    rw [Option.bind_some, Option.bind_some, hland]
    cases hs : r.landing? (r.draft mount.path.normalize links) (p, t) with
    | some target => rfl
    | none =>
      rw [Option.none_or, Option.none_or]
      exact hdirects p (by simp [takenOver, hp, hs])

/-! ## Leaving links out -/

theorem directAt_cons (l : Link) (rest : List Link) :
    r.directAt mount (l :: rest) p =
      (if l.place mount = p then r.directTarget? mount l else none).or
        (r.directAt mount rest p) := by
  unfold directAt
  rw [directs_cons, Table.find_append]
  congr 1
  cases h : r.directTarget? mount l <;> simp [directs, Table.find, h]

/-- Links that are not direct at a location can be left out there. -/
theorem directAt_filter {keep : Link → Bool}
    (h : ∀ l, keep l = false → l.place mount = p → r.directTarget? mount l = none) :
    r.directAt mount (links.filter keep) p = r.directAt mount links p := by
  induction links with
  | nil => rfl
  | cons l rest ih =>
    cases hk : keep l with
    | true => rw [List.filter_cons_of_pos hk, directAt_cons, directAt_cons, ih]
    | false =>
      have hl : (if l.place mount = p then r.directTarget? mount l else none) = none := by
        split
        · exact h l hk ‹_›
        · rfl
      rw [List.filter_cons_of_neg (by simp [hk]), ih, directAt_cons, hl, Option.none_or]

/-- Links that do not lead to another entry are not missed among those that do. -/
theorem insides_filter {keep : Link → Bool}
    (h : ∀ l, keep l = false → l.insideTarget? mount = none) :
    insides mount (links.filter keep) = insides mount links := by
  induction links with
  | nil => rfl
  | cons l rest ih =>
    cases hk : keep l with
    | true => rw [List.filter_cons_of_pos hk, insides_cons, ih, ← insides_cons]
    | false =>
      rw [List.filter_cons_of_neg (by simp [hk]), ih, insides_cons]
      simp [insides, h l hk]

/-- Where a repeat has something direct before it, leaving it out keeps what is direct. -/
theorem directAt_withoutRepeats {repeats : Link → Link → Bool}
    (h : ∀ l l', repeats l l' = true → l'.place mount = p →
      r.directTarget? mount l' = none ∨ l.place mount = p ∧ (r.directTarget? mount l).isSome) :
    r.directAt mount (Link.withoutRepeats repeats links) p = r.directAt mount links p := by
  induction links with
  | nil => rfl
  | cons l rest ih =>
    rw [Link.withoutRepeats, directAt_cons, directAt_cons]
    by_cases hl : l.place mount = p ∧ (r.directTarget? mount l).isSome
    · -- What comes later at this location is not looked at, left out or not.
      obtain ⟨target, ht⟩ := Option.isSome_iff_exists.mp hl.2
      rw [if_pos hl.1, ht, Option.some_or, Option.some_or]
    · rw [directAt_filter, ih]
      intro l' hk hp
      exact (h l l' (by simpa using hk) hp).resolve_right hl

theorem insides_withoutRepeats {repeats : Link → Link → Bool}
    (h : ∀ l l', repeats l l' = true → l'.insideTarget? mount = none) :
    insides mount (Link.withoutRepeats repeats links) = insides mount links := by
  induction links with
  | nil => rfl
  | cons l rest ih =>
    have hrest : insides mount ((Link.withoutRepeats repeats rest).filter fun l' =>
        !repeats l l') = insides mount rest := by
      rw [insides_filter fun l' hk => h l l' (by simpa using hk), ih]
    rw [Link.withoutRepeats, insides_cons, hrest, ← insides_cons]

/-! ## Repeated declarations do not count -/

/-- The later link is not one to another entry. It is left out by the policy, or its location
is declared directly by the earlier one, or a link takes the location over. -/
def restates (r : Resolver) (mount : Path) (links : List Link) (l later : Link) : Bool :=
  l.samePlace mount later && (later.insideTarget? mount).isNone &&
    ((r.directTarget? mount later).isNone || (r.directTarget? mount l).isSome ||
      r.takenOver mount links (later.place mount))

/-- A declaration that only restates what an earlier link has settled may be left out: the
manifest is still there, and has the same entries. -/
theorem manifest_withoutRepeats (r : Resolver) (links : List Link) (mount : Spelling)
    (m : Manifest) (h : (r.manifest links mount).1 = .ok m) :
    ∃ m', (r.manifest (Link.withoutRepeats (r.restates mount.path.normalize links) links)
        mount).1 = .ok m' ∧
      ∀ p, m'.entries.get? p = m.entries.get? p := by
  have hsub := Link.withoutRepeats_sublist (r.restates mount.path.normalize links) links
  obtain ⟨hrel, haccepted⟩ := manifest_isOk_iff.mp ⟨m, h⟩
  obtain ⟨m', h'⟩ := manifest_isOk_iff.mpr ⟨hrel, fun l hl => haccepted l (hsub.subset hl)⟩
  refine ⟨m', h', entries_congr h h' ?_ ?_⟩
  · funext p
    rw [linkAt, insides_withoutRepeats, linkAt]
    intro l later hrep
    simp only [restates, Bool.and_eq_true, Option.isNone_iff_eq_none] at hrep
    exact hrep.1.2
  · intro p hp
    refine directAt_withoutRepeats fun l later hrep hplace => ?_
    simp only [restates, Bool.and_eq_true, hplace, hp, Bool.or_false, Bool.or_eq_true,
      Option.isNone_iff_eq_none] at hrep
    have hsame : l.place mount.path.normalize = later.place mount.path.normalize := by
      simpa [Link.samePlace] using hrep.1.1
    exact hrep.2.imp_right fun hdirect => ⟨hsame.trans hplace, hdirect⟩

/-- Three repetitions that do not count: of a direct declaration, at a location that is taken
over, and one that escapes and is ignored. A link to another entry stays. -/
def restated : List Link :=
  [⟨.ofString "a", some "/t", false⟩, ⟨.ofString "x/../a", some "u", true⟩,
   ⟨.ofString "b", some "a", false⟩, ⟨.ofString "c", some "./b", false⟩,
   ⟨.ofString "c", none, false⟩, ⟨.ofString "d", some "gone", false⟩,
   ⟨.ofString "d", some "../../d", false⟩]

theorem withoutRepeats_of_restated :
    ∃ m m', (brief.manifest restated (.ofString "fs")).1 = .ok m ∧
      (brief.manifest (Link.withoutRepeats (brief.restates (.ofString "fs") restated) restated)
        (.ofString "fs")).1 = .ok m' ∧
      (Link.withoutRepeats (brief.restates (.ofString "fs") restated) restated).map
        (·.name.text) = ["a", "b", "c", "d"] ∧
      m.entries.get? (.ofString "fs/c") = some (some "/t") ∧
      ∀ p, m'.entries.get? p = m.entries.get? p := by
  have hc : (brief.manifest restated (.ofString "fs")).1.toOption.map
      (·.entries.get? (.ofString "fs/c")) = some (some (some "/t")) := by decide
  cases h : (brief.manifest restated (.ofString "fs")).1 with
  | error e => simp [h, Except.toOption] at hc
  | ok m =>
    obtain ⟨m', h', hsame⟩ := manifest_withoutRepeats brief restated (.ofString "fs") m h
    exact ⟨m, m', rfl, h', by decide, by simpa [h, Except.toOption] using hc, hsame⟩

/-! ## Repeated declarations that do count -/

/-- Every link may be left out whose location was declared before. -/
def IgnoresRepeats (r : Resolver) (mount : Spelling) (links : List Link) : Prop :=
  ∀ m m', (r.manifest links mount).1 = .ok m →
    (r.manifest (Link.withoutRepeats (Link.samePlace mount.path.normalize) links) mount).1 =
      .ok m' →
    ∀ p, m'.entries.get? p = m.entries.get? p

theorem not_ignoresRepeats {mount : Spelling} (p : Path) (target target' : Option (Option String))
    (h : (r.manifest links mount).1.toOption.map (·.entries.get? p) = some target)
    (h' : (r.manifest (Link.withoutRepeats (Link.samePlace mount.path.normalize) links)
      mount).1.toOption.map (·.entries.get? p) = some target')
    (hne : target' ≠ target) : ¬ r.IgnoresRepeats mount links := by
  intro hall
  obtain ⟨m, hm, rfl⟩ := Option.map_eq_some_iff.mp h
  obtain ⟨m', hm', rfl⟩ := Option.map_eq_some_iff.mp h'
  exact hne (hall m m' (ok_of_toOption hm) (ok_of_toOption hm') p)

/-- A link to another entry replaces the direct declaration before it. -/
def overruled : List Link :=
  [⟨.ofString "x", some "/t", false⟩, ⟨.ofString "y", some "/u", false⟩,
   ⟨.ofString "x", some "y", false⟩]

/-- One that leads nowhere keeps the chain through it from the direct declaration. -/
def cutOff : List Link :=
  [⟨.ofString "x", some "/t", false⟩, ⟨.ofString "x", some "gone", false⟩,
   ⟨.ofString "y", some "x", false⟩]

/-- A direct declaration stands in for the link before it that leads nowhere. -/
def standIn : List Link :=
  [⟨.ofString "x", some "gone", false⟩, ⟨.ofString "x", some "/t", false⟩]

/-- It does so, too, for one that escapes and is ignored. -/
def standInForIgnored : List Link :=
  [⟨.ofString "x", some "../../h", false⟩, ⟨.ofString "x", some "/t", false⟩]

/-- The last of two links to other entries is followed. -/
def relinked : List Link :=
  [⟨.ofString "y", some "/t", false⟩, ⟨.ofString "z", some "/u", false⟩,
   ⟨.ofString "x", some "y", false⟩, ⟨.ofString "x", some "z", false⟩]

theorem repeats_not_ignored :
    ¬ brief.IgnoresRepeats (.ofString "fs") overruled ∧
    ¬ brief.IgnoresRepeats (.ofString "fs") cutOff ∧
    ¬ brief.IgnoresRepeats (.ofString "fs") standIn ∧
    ¬ brief.IgnoresRepeats (.ofString "fs") standInForIgnored ∧
    ¬ brief.IgnoresRepeats (.ofString "fs") relinked := by
  refine ⟨?_, ?_, ?_, ?_, ?_⟩
  · exact not_ignoresRepeats (.ofString "fs/x") (some (some "/u")) (some (some "/t"))
      (by decide) (by decide) (by decide)
  · exact not_ignoresRepeats (.ofString "fs/y") none (some (some "/t"))
      (by decide) (by decide) (by decide)
  · exact not_ignoresRepeats (.ofString "fs/x") (some (some "/t")) none
      (by decide) (by decide) (by decide)
  · exact not_ignoresRepeats (.ofString "fs/x") (some (some "/t")) none
      (by decide) (by decide) (by decide)
  · exact not_ignoresRepeats (.ofString "fs/x") (some (some "/u")) (some (some "/t"))
      (by decide) (by decide) (by decide)

end Resolver

end InputStaging
