import InputStaging.Proofs.Fileset.Sources
import Mathlib.Data.List.Basic

/-!
# Policies for escaping links

How a fileset comes out under one policy is known from how it comes out under another. Where no
link escapes the policy is never asked for. Ignoring the links that escape is doing without them,
and telling of them; resolving them is declaring the targets that they are resolved to. So every
policy comes down to a fileset without such links.
-/

namespace InputStaging.Resolver

/-- The same resolver under another policy. -/
def under (r : Resolver) (policy : EscapePolicy) : Resolver := { r with policy }

variable {r : Resolver} {mount : Path} {l : Link} {links : List Link}

/-! ## Which links are accepted -/

/-- A link that has a place in the fileset is accepted, unless it escapes and the policy minds. -/
theorem refusal?_eq_none_iff (hname : ∃ location, locate mount l = .ok location) :
    r.refusal? mount l = none ↔ ∀ target, l.escapingTarget? mount = some target →
      r.policy = .ignore ∨ r.policy = .resolve ∧ (l.aim mount target).climbsOut = false := by
  constructor
  · exact fun h target he => escapes_of_accepted h he
  · intro h
    obtain ⟨location, hloc⟩ := hname
    unfold refusal?
    rw [hloc]
    cases he : l.escapingTarget? mount with
    | none => rfl
    | some target =>
      rcases h target he with hignore | ⟨hresolve, hstays⟩
      · simp [hignore]
      · simp [hresolve, hstays]

/-- A relative target that climbs above the execution root escapes from every fileset. -/
theorem escapes_of_climbs {target : String} (hr : l.relativeTarget? = some target)
    (hc : (l.aim mount target).climbsOut = true) : l.escapingTarget? mount = some target := by
  unfold Link.escapingTarget? Link.staysInside
  rw [hr]
  simp [Option.filter, hc]

/-! ## Links that do not escape -/

theorem directTarget?_under (h : l.escapingTarget? mount = none) (policy : EscapePolicy) :
    (r.under policy).directTarget? mount l = r.directTarget? mount l := by
  unfold directTarget?
  rw [h]
  split
  · split <;> split <;> rfl
  · rfl

theorem notice_of_confined (h : l.escapingTarget? mount = none) : r.notice mount l = [] := by
  unfold notice
  rw [h]

/-- Where no link escapes, the policy makes no difference to what is read. -/
theorem draft_under (h : ∀ l ∈ links, l.escapingTarget? mount = none) (policy : EscapePolicy) :
    (r.under policy).draft mount links = r.draft mount links := by
  have hdirects : (r.under policy).directs mount links = r.directs mount links := by
    refine List.filterMap_congr fun l hl => ?_
    rw [directTarget?_under (h l hl)]
  have hnotices : links.flatMap ((r.under policy).notice mount) =
      links.flatMap (r.notice mount) := by
    rw [List.flatMap_eq_nil_iff.mpr fun l hl => notice_of_confined (h l hl),
      List.flatMap_eq_nil_iff.mpr fun l hl => notice_of_confined (h l hl)]
  unfold draft Draft.read
  rw [hdirects, hnotices, ignored_of_confined h, ignored_of_confined h]

/-- A fileset without escaping links comes out the same under every policy. -/
theorem manifest_under {mount : Spelling} (hmount : mount.relative = .ok mount.path)
    (hnames : ∀ l ∈ links, ∃ location, locate mount.path.normalize l = .ok location)
    (h : ∀ l ∈ links, l.escapingTarget? mount.path.normalize = none) (policy : EscapePolicy) :
    ((r.under policy).manifest links mount).1 =
      .ok ((r.draft mount.path.normalize links).manifest r mount.path.normalize) := by
  have haccepted : ∀ l ∈ links, (r.under policy).refusal? mount.path.normalize l = none := by
    intro l hl
    refine (refusal?_eq_none_iff (hnames l hl)).mpr fun target he => ?_
    rw [h l hl] at he
    cases he
  rw [manifest_of_accepted hmount haccepted, draft_under h]
  rfl

/-- Links that are ignored are named first among those that are dropped, and that is all. -/
theorem manifest_of_ignore (hr : r.policy = .ignore) (mount : Path) (links : List Link) :
    (r.draft mount links).manifest r mount =
      let m := (r.draft mount (Link.confined mount links)).manifest r mount
      let escaping := links.filter fun l => (l.escapingTarget? mount).isSome
      { m with dropped := escaping.map (·.place mount) ++ m.dropped } := by
  have hne : r.policy ≠ .resolve := by simp [hr]
  rw [manifest_of_confined hne, ignored, if_pos hr]

/-! ## Links that are given the target they are resolved to -/

/-- In place of the target by which a link escapes, the absolute one that it is resolved to. -/
def redirected (r : Resolver) (mount : Path) (l : Link) : Link :=
  match l.escapingTarget? mount with
  | none => l
  | some target =>
    { name := l.name, target := some (r.execRoot / (l.aim mount target).normalize).text }

theorem redirected_name (l : Link) : (r.redirected mount l).name = l.name := by
  unfold redirected
  cases l.escapingTarget? mount <;> rfl

theorem place_redirected (l : Link) :
    (r.redirected mount l).place mount = l.place mount := by
  unfold Link.place
  rw [redirected_name]

theorem locate_redirected (l : Link) : locate mount (r.redirected mount l) = locate mount l := by
  unfold locate
  rw [redirected_name]

/-- The new target is absolute, so that it is declared as it stands. -/
theorem reading_redirected {target : String} (he : l.escapingTarget? mount = some target) :
    (r.redirected mount l).relativeTarget? = none ∧ (r.redirected mount l).target? =
      some (r.execRoot / (l.aim mount target).normalize).text := by
  have habs : (Path.ofString (r.execRoot / (l.aim mount target).normalize).text).isAbsolute =
      true := by
    rw [Path.ofString_text]
    exact Path.isAbsolute_div r.rooted _
  have hne : (r.execRoot / (l.aim mount target).normalize).text ≠ "" := by
    intro hempty
    rw [hempty] at habs
    exact absurd habs (by decide)
  have htarget : (r.redirected mount l).target? =
      some (r.execRoot / (l.aim mount target).normalize).text := by
    simp [redirected, he, Link.target?, Option.filter, hne]
  refine ⟨?_, htarget⟩
  unfold Link.relativeTarget?
  rw [htarget]
  simp [Option.filter, habs]

theorem escapingTarget?_redirected (l : Link) :
    (r.redirected mount l).escapingTarget? mount = none := by
  cases he : l.escapingTarget? mount with
  | none =>
    have hself : r.redirected mount l = l := by simp [redirected, he]
    rw [hself, he]
  | some target =>
    unfold Link.escapingTarget?
    rw [(reading_redirected he).1]
    rfl

theorem insideTarget?_redirected (l : Link) :
    (r.redirected mount l).insideTarget? mount = l.insideTarget? mount := by
  rcases l.reading mount with ⟨-, -, he, -⟩ | ⟨target, -, -, he, -⟩ | ⟨target, -, hi, he, -⟩
  · simp [redirected, he]
  · simp [redirected, he]
  · rw [hi]
    unfold Link.insideTarget?
    rw [(reading_redirected he).1]
    rfl

theorem directTarget?_redirected (hr : r.policy = .resolve) (l : Link) :
    r.directTarget? mount (r.redirected mount l) = r.directTarget? mount l := by
  cases he : l.escapingTarget? mount with
  | none =>
    have hself : r.redirected mount l = l := by simp [redirected, he]
    rw [hself]
  | some target =>
    obtain ⟨hrel, htarget⟩ := reading_redirected (r := r) he
    have hsome := Link.relativeTarget?_of_escapes he
    simp [directTarget?, Link.isRelative, hrel, htarget, hsome, he, hr]

theorem manifest_of_resolve (hr : r.policy = .resolve) (mount : Path) (links : List Link) :
    (r.draft mount (links.map (r.redirected mount))).manifest r mount =
      (r.draft mount links).manifest r mount := by
  have hdirects : r.directs mount (links.map (r.redirected mount)) = r.directs mount links := by
    unfold directs
    rw [List.filterMap_map]
    congr 1
    funext l
    simp only [Function.comp_apply, directTarget?_redirected hr, place_redirected]
  have hinsides : insides mount (links.map (r.redirected mount)) = insides mount links := by
    unfold insides
    rw [List.filterMap_map]
    congr 1
    funext l
    simp only [Function.comp_apply, insideTarget?_redirected, place_redirected]
  have hignored : ∀ links, r.ignored mount links = [] := fun links => by
    unfold ignored
    rw [hr]
    rfl
  refine manifest_dropped [] ?_ ?_ ?_
  · simp only [draft, Draft.read, hdirects]
  · simp only [draft, Draft.read, hinsides]
  · simp only [draft, Draft.read, hignored, List.append_nil]

/-! ## The policies beside one another -/

/-- What the runs of one fileset under the three policies have to do with each other. -/
structure PolicyMatrix (r : Resolver) (links : List Link) (mount : Spelling) : Prop where
  /-- Escaping links are refused, and nothing else is. -/
  refuses : (∃ m, ((r.under .error).manifest links mount).1 = .ok m) ↔
    ∀ l ∈ links, l.escapingTarget? mount.path.normalize = none
  /-- Where none is refused there is but one manifest. -/
  agrees : ∀ m, ((r.under .error).manifest links mount).1 = .ok m →
    ((r.under .resolve).manifest links mount).1 = .ok m ∧
      ((r.under .ignore).manifest links mount).1 = .ok m
  /-- To ignore links is to do without them, whatever the policy then, and to name them first among
  those that are dropped. -/
  ignores : ∃ m m', ((r.under .ignore).manifest links mount).1 = .ok m ∧
    (∀ policy, ((r.under policy).manifest (Link.confined mount.path.normalize links) mount).1 =
      .ok m') ∧
    let escaping := links.filter fun l => (l.escapingTarget? mount.path.normalize).isSome
    m.entries = m'.entries ∧
      m.dropped = escaping.map (·.place mount.path.normalize) ++ m'.dropped
  /-- Links are resolved unless a target that is relative to its link climbs above the execution
  root. A target that is anchored at the execution root may climb above it: it is not looked at. -/
  resolves : (∃ m, ((r.under .resolve).manifest links mount).1 = .ok m) ↔
    ∀ l ∈ links, ∀ target, l.relativeTarget? = some target →
      (l.aim mount.path.normalize target).climbsOut = false
  /-- To resolve links is to declare the targets that they are resolved to, whatever the policy
  then. -/
  redirects : ∀ m, ((r.under .resolve).manifest links mount).1 = .ok m → ∀ policy,
    ((r.under policy).manifest (links.map (r.redirected mount.path.normalize)) mount).1 = .ok m

/-- How the three policies are related, on all lists of links with names that are accepted. Under
each of them a target that is anchored at the execution root is recorded as it is, whether it climbs
or not: only targets relative to their link are judged. -/
theorem policy_matrix (r : Resolver) (links : List Link) (mount : Spelling)
    (hmount : mount.relative = .ok mount.path)
    (hnames : ∀ l ∈ links, ∃ location, locate mount.path.normalize l = .ok location) :
    r.PolicyMatrix links mount := by
  have hreads : ∀ policy, (∃ m, ((r.under policy).manifest links mount).1 = .ok m) ↔
      ∀ l ∈ links, ∀ target, l.escapingTarget? mount.path.normalize = some target →
        policy = .ignore ∨ policy = .resolve ∧
          (l.aim mount.path.normalize target).climbsOut = false := fun policy => by
    rw [manifest_isOk_iff]
    constructor
    · rintro ⟨-, haccepted⟩ l hl
      exact (refusal?_eq_none_iff (hnames l hl)).mp (haccepted l hl)
    · intro h
      exact ⟨hmount, fun l hl => (refusal?_eq_none_iff (hnames l hl)).mpr (h l hl)⟩
  have hrefuses : (∃ m, ((r.under .error).manifest links mount).1 = .ok m) ↔
      ∀ l ∈ links, l.escapingTarget? mount.path.normalize = none := by
    rw [hreads]
    constructor
    · intro h l hl
      rw [Option.eq_none_iff_forall_ne_some]
      intro target he
      simpa using h l hl target he
    · intro h l hl target he
      rw [h l hl] at he
      cases he
  constructor
  case refuses => exact hrefuses
  case agrees =>
    intro m hm
    have hnone := hrefuses.mp ⟨m, hm⟩
    rw [manifest_under hmount hnames hnone] at hm ⊢
    rw [manifest_under hmount hnames hnone]
    exact ⟨hm, hm⟩
  case ignores =>
    obtain ⟨m, hm⟩ := (hreads .ignore).mpr fun _ _ _ _ => .inl rfl
    have hconfined := manifest_under (r := r) hmount
      (fun l hl => hnames l (mem_confined_iff.mp hl).1) (confined_stays _ links)
    have hsettled := manifest_of_accepted hmount (manifest_isOk_iff.mp ⟨m, hm⟩).2
    rw [manifest_of_ignore rfl, draft_under (confined_stays _ links)] at hsettled
    obtain rfl := Except.ok.inj (hm.symm.trans hsettled)
    exact ⟨_, _, hm, hconfined, rfl, rfl⟩
  case resolves =>
    rw [hreads]
    constructor
    · intro h l hl target ht
      cases hc : (l.aim mount.path.normalize target).climbsOut with
      | false => rfl
      | true =>
        have hstays := (h l hl target (escapes_of_climbs ht hc)).resolve_left (by simp)
        rw [hc] at hstays
        cases hstays.2
    · intro h l hl target he
      exact .inr ⟨rfl, h l hl target (Link.relativeTarget?_of_escapes he)⟩
  case redirects =>
    intro m hm policy
    have hstay : ∀ l ∈ links.map (r.redirected mount.path.normalize),
        l.escapingTarget? mount.path.normalize = none :=
      List.forall_mem_map.mpr fun l _ => escapingTarget?_redirected l
    have hredirected : ∀ l ∈ links.map (r.redirected mount.path.normalize),
        ∃ location, locate mount.path.normalize l = .ok location := by
      rw [List.forall_mem_map]
      intro l hl
      rw [locate_redirected]
      exact hnames l hl
    have hsettled := manifest_of_accepted hmount (manifest_isOk_iff.mp ⟨m, hm⟩).2
    rw [← manifest_of_resolve rfl] at hsettled
    have hdraft := draft_under (r := r) hstay .resolve
    rw [manifest_under hmount hredirected hstay, ← hm, hsettled, ← hdraft]
    rfl

/-- Two links escape, one of them to a directory whose name only begins like that of the fileset.
The location of the other is declared again, and a chain that leaves and comes back leads there. -/
def outbound : List Link :=
  [⟨.ofString "a", some "b", false⟩, ⟨.ofString "b", some "../q/./x", false⟩,
   ⟨.ofString "b", some "/u", false⟩, ⟨.ofString "c", some "../fs/a", false⟩,
   ⟨.ofString "d", some "../fs2/y", false⟩]

theorem policies_of_outbound :
    (¬ ∃ m, ((brief.under .error).manifest outbound (.ofString "fs")).1 = .ok m) ∧
    (∃ m m', ((brief.under .ignore).manifest outbound (.ofString "fs")).1 = .ok m ∧
      ((brief.under .error).manifest (Link.confined (.ofString "fs") outbound)
        (.ofString "fs")).1 = .ok m' ∧
      m.entries = m'.entries ∧ m.dropped = [.ofString "fs/b", .ofString "fs/d"] ++ m'.dropped) ∧
    ∃ m, ((brief.under .resolve).manifest outbound (.ofString "fs")).1 = .ok m ∧
      m.entries.get? (.ofString "fs/c") = some (some "/root/q/x") ∧
      ((brief.under .error).manifest (outbound.map (brief.redirected (.ofString "fs")))
        (.ofString "fs")).1 = .ok m := by
  have hnames : ∀ l ∈ outbound, ∃ location, locate (.ofString "fs") l = .ok location := by
    have hok : ∀ l ∈ outbound, (locate (.ofString "fs") l).toOption.isSome = true := by decide
    intro l hl
    cases h : locate (.ofString "fs") l with
    | error failure => simpa [h, Except.toOption] using hok l hl
    | ok location => exact ⟨location, rfl⟩
  have hmatrix := policy_matrix brief outbound (.ofString "fs") rfl hnames
  refine ⟨fun hread => ?_, ?_, ?_⟩
  · exact absurd (hmatrix.refuses.mp hread) (by decide)
  · obtain ⟨m, m', hm, hm', hentries, hdropped⟩ := hmatrix.ignores
    exact ⟨m, m', hm, hm' .error, hentries, hdropped⟩
  · have hc : ((brief.under .resolve).manifest outbound (.ofString "fs")).1.toOption.map
        (·.entries.get? (.ofString "fs/c")) = some (some (some "/root/q/x")) := by
      decide +kernel
    cases h : ((brief.under .resolve).manifest outbound (.ofString "fs")).1 with
    | error failure => simp [h, Except.toOption] at hc
    | ok m =>
      simp only [h, Except.toOption, Option.map_some, Option.some.injEq] at hc
      exact ⟨m, rfl, hc, hmatrix.redirects m h .error⟩

end InputStaging.Resolver
