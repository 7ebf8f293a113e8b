import InputStaging.Proofs.Fileset.Accounts
import InputStaging.Proofs.Fileset.Confined
import InputStaging.Proofs.Fileset.Policies
import InputStaging.Proofs.Path.Reach

/-!
# Which links escape

Whether a relative target leaves its fileset is decided by three scans of the joined path. One
walk from the directory of the link says the same: the target escapes unless the walk ends at the
mount or beneath it, and climbs above the execution root exactly if the walk fails. It may leave
the fileset on its way.
-/

namespace InputStaging.Resolver

variable {r : Resolver} {dir location : Path} {mount : Spelling} {l : Link} {target : String}

/-! ## The target by the walk -/

/-- How the walk along a relative target ends, and what the link is taken for. -/
inductive Walked (dir location : Path) (l : Link) (target : String) : Option Path → Prop where
  | climbs (escapes : l.escapingTarget? dir = some target)
      (aim : (l.aim dir target).climbsOut = true) : Walked dir location l target none
  | outside {q : Path} (beyond : ¬ dir.segments <+: q.segments)
      (escapes : l.escapingTarget? dir = some target)
      (aim : (l.aim dir target).climbsOut = false) (finish : (l.aim dir target).normalize = q) :
      Walked dir location l target (some q)
  | inside {q : Path} (within : dir.segments <+: q.segments)
      (stays : l.insideTarget? dir = some target)
      (declared : l.declaration dir location = .inside target) :
      Walked dir location l target (some q)

theorem walked (hdir : dir.isAbsolute = false) (hlocation : locate dir.normalize l = .ok location)
    (htarget : l.relativeTarget? = some target) :
    Walked dir.normalize location l target
      (location.parent.reach? (Path.ofString target).segments) := by
  obtain rfl := (locate_eq_ok hlocation).1
  have hclean := clean_of_located hdir hlocation
  have hparent := (standsIn_of_located hdir hlocation).clean.parent
  have hrelative := Link.isAbsolute_of_relativeTarget? htarget
  have haim : (l.aim dir.normalize target).isAbsolute = false :=
    Path.isAbsolute_div_of_relative hparent.relative hrelative
  have hwithin := Path.isWithin_iff hclean haim
  rw [Path.reach?_eq hparent hrelative]
  change Walked _ _ l target (if (l.aim dir.normalize target).climbsOut then none
    else some (l.aim dir.normalize target).normalize)
  cases hc : (l.aim dir.normalize target).climbsOut with
  | true => exact .climbs (escapes_of_climbs htarget hc) hc
  | false =>
    rw [if_neg (by simp)]
    rcases l.reading dir.normalize with
      ⟨hr, -⟩ | ⟨t, hr, hi, -, hd⟩ | ⟨t, hr, -, he, -⟩
    · rw [htarget] at hr
      cases hr
    · obtain rfl := Option.some.inj (htarget.symm.trans hr)
      have hstays := (Option.filter_eq_some_iff.mp hi).2
      rw [Link.staysInside, hc, Bool.not_false, Bool.true_and] at hstays
      exact .inside ((hwithin hc).mp hstays) hi hd
    · obtain rfl := Option.some.inj (htarget.symm.trans hr)
      have hleaves := (Option.filter_eq_some_iff.mp he).2
      rw [Link.staysInside, hc, Bool.not_false, Bool.true_and, Bool.not_eq_true'] at hleaves
      refine .outside (fun hbeneath => ?_) he hc rfl
      rw [(hwithin hc).mpr hbeneath] at hleaves
      cases hleaves

/-! ## A fileset of one link -/

theorem manifest_single_eq_error_iff (hmount : mount.relative = .ok mount.path)
    {failure : Failure} :
    (r.manifest [l] mount).1 = .error failure ↔
      r.refusal? mount.path.normalize l = some failure := by
  rw [manifest_eq_error_iff, hmount, List.findSome?_cons]
  cases r.refusal? mount.path.normalize l <;> simp

/-- An escaping link that is resolved makes the one entry. -/
theorem manifest_of_resolved (hr : r.policy = .resolve)
    (hescapes : l.escapingTarget? dir = some target) :
    ((r.draft dir [l]).manifest r dir).entries.entries =
        [(l.place dir, some (r.execRoot / (l.aim dir target).normalize).text)] ∧
      ((r.draft dir [l]).manifest r dir).dropped = [] := by
  have hrelative := Link.relativeTarget?_of_escapes hescapes
  have hdirect : r.directTarget? dir l =
      some (some (r.execRoot / (l.aim dir target).normalize).text) := by
    simp [directTarget?, Link.isRelative, hrelative, hr, hescapes]
  have hinside : l.insideTarget? dir = none := by
    rcases l.reading dir with ⟨-, hi, -⟩ | ⟨_, -, -, he, -⟩ | ⟨_, -, hi, -⟩
    · exact hi
    · rw [hescapes] at he
      cases he
    · exact hi
  have hignored : r.ignored dir [l] = [] := by simp [ignored, hr]
  unfold draft
  rw [Draft.read_single, hdirect, hinside, hignored]
  exact ⟨rfl, rfl⟩

/-- What may be told of a link that leads on to another entry, where there is none. -/
def LeadsNowhere (r : Resolver) (location : Path) (e : Event) : Prop :=
  e = .chainTooLong location r.maxHops r.maxHops ∨ (∃ seen, e = .linkCycle location seen) ∨
    ∃ missing mount, e = .linkDangling location missing mount

/-- A link to another entry comes to the same under every policy, and alone it leads nowhere. -/
theorem manifest_of_inside (hmount : mount.relative = .ok mount.path)
    (hlocation : locate mount.path.normalize l = .ok location)
    (hstays : l.insideTarget? mount.path.normalize = some target) :
    ∃ m e, (∀ policy, (r.under policy).manifest [l] mount = (.ok m, [e])) ∧
      m.entries.entries = [] ∧ m.dropped = [location] ∧ r.LeadsNowhere location e := by
  obtain rfl := (locate_eq_ok hlocation).1
  set dir := mount.path.normalize with hdir
  have hconfined : l.escapingTarget? dir = none := (directTarget?_of_inside (r := r) hstays).2
  let links : Table Path String := (∅ : Table Path String).insert (l.place dir) target
  have hread : ∀ policy, (r.under policy).declareAll dir {} [l] = ({ links }, .ok ()) := by
    intro policy
    have haccepted : (r.under policy).refusal? dir l = none :=
      (refusal?_eq_none_iff ⟨_, hlocation⟩).mpr fun t he => nomatch hconfined.symm.trans he
    refine declareAll_eq_ok_iff.mpr ⟨by simpa using haccepted, ?_⟩
    rw [Draft.read_single, (directTarget?_of_inside hstays).1, hstays, notice_of_confined hconfined,
      ignored_of_confined (by simpa using hconfined)]
    rfl
  have hmanifest : ∀ policy, (r.under policy).manifest [l] mount =
      let settled := r.settle links ({ mount := dir }, []) (l.place dir, target)
      (.ok settled.1, settled.2) := by
    intro policy
    unfold manifest
    simp only [hmount, ← hdir, hread policy]
    rfl
  have hempty : ∀ p, (∅ : Table Path (Option String)).get? p = none := fun _ => rfl
  unfold settle at hmanifest
  dsimp only at hmanifest
  cases hc : chase links r.maxHops (l.place dir) target [] with
  | tooLong =>
    simp only [hc] at hmanifest
    exact ⟨_, _, hmanifest, rfl, rfl, .inl rfl⟩
  | cycle seen =>
    simp only [hc] at hmanifest
    exact ⟨_, _, hmanifest, rfl, rfl, .inr (.inl ⟨seen, rfl⟩)⟩
  | arrived missing =>
    simp only [hc, hempty] at hmanifest
    exact ⟨_, _, hmanifest, rfl, rfl, .inr (.inr ⟨missing, dir, rfl⟩)⟩

/-! ## What the walk decides -/

/-- What becomes of a fileset whose one link has a relative target, by the end of the walk along
that target. -/
structure DecidedBy (r : Resolver) (l : Link) (mount : Spelling) (location : Path)
    (target : String) (finish? : Option Path) : Prop where
  /-- Refused where the walk fails or ends outside the mount. -/
  refused : ((r.under .error).manifest [l] mount).1 = .error (.forbiddenLink target location) ↔
    finish? = none ∨ ∃ q, finish? = some q ∧ ¬ mount.path.normalize.segments <+: q.segments
  /-- Where escaping links are resolved, refused only if the walk fails. -/
  climbs : ((r.under .resolve).manifest [l] mount).1 = .error (.forbiddenLink target location) ↔
    finish? = none
  /-- Resolved to the end of the walk. -/
  resolved : ∀ q, finish? = some q → ¬ mount.path.normalize.segments <+: q.segments →
    ∃ m, ((r.under .resolve).manifest [l] mount).1 = .ok m ∧
      m.entries.entries = [(location, some (r.execRoot / q).text)] ∧ m.dropped = []
  /-- A walk that ends in the fileset is none of the policy's business. -/
  inside : ∀ q, finish? = some q → mount.path.normalize.segments <+: q.segments →
    l.declaration mount.path.normalize location = .inside target ∧
    ∃ m e, (∀ policy, (r.under policy).manifest [l] mount = (.ok m, [e])) ∧
      m.entries.entries = [] ∧ m.dropped = [location] ∧ r.LeadsNowhere location e

theorem refusal?_of_escapes (hlocation : locate dir l = .ok location)
    (hescapes : l.escapingTarget? dir = some target) :
    (r.under .error).refusal? dir l = some (.forbiddenLink target location) ∧
      (r.under .resolve).refusal? dir l =
        if (l.aim dir target).climbsOut then some (.forbiddenLink target location) else none := by
  obtain rfl := (locate_eq_ok hlocation).1
  unfold refusal?
  rw [hlocation, hescapes]
  exact ⟨rfl, rfl⟩

/-- One walk along the target of a link, from the directory of the link, tells how each policy
takes it. -/
theorem classified_by_walk (r : Resolver) (l : Link) (mount : Spelling) (location : Path)
    (target : String) (hmount : mount.relative = .ok mount.path)
    (hlocation : locate mount.path.normalize l = .ok location)
    (htarget : l.relativeTarget? = some target) :
    r.DecidedBy l mount location target
      (location.parent.reach? (Path.ofString target).segments) := by
  obtain ⟨-, hdir, -, -⟩ := Spelling.relative_eq_ok_iff.mp hmount
  have hwalk := walked hdir hlocation htarget
  generalize location.parent.reach? (Path.ofString target).segments = finish? at hwalk ⊢
  constructor
  case refused =>
    rw [manifest_single_eq_error_iff hmount]
    cases hwalk with
    | climbs escapes _ => simp [refusal?_of_escapes hlocation escapes]
    | outside beyond escapes _ _ => simp [refusal?_of_escapes hlocation escapes, beyond]
    | inside within stays _ =>
      obtain ⟨m, e, hm, -⟩ := manifest_of_inside (r := r) hmount hlocation stays
      rw [← manifest_single_eq_error_iff hmount, hm .error]
      simp [within]
  case climbs =>
    rw [manifest_single_eq_error_iff hmount]
    cases hwalk with
    | climbs escapes aim => simp [refusal?_of_escapes hlocation escapes, aim]
    | outside _ escapes aim _ => simp [refusal?_of_escapes hlocation escapes, aim]
    | inside _ stays _ =>
      obtain ⟨m, e, hm, -⟩ := manifest_of_inside (r := r) hmount hlocation stays
      rw [← manifest_single_eq_error_iff hmount, hm .resolve]
      simp
  case resolved =>
    intro q hq hbeyond
    cases hwalk with
    | climbs _ _ => cases hq
    | outside _ escapes aim finish =>
      obtain rfl := Option.some.inj hq
      have haccepted : ∀ l' ∈ [l], (r.under .resolve).refusal? mount.path.normalize l' = none := by
        simp [refusal?_of_escapes hlocation escapes, aim]
      obtain ⟨hentries, hdropped⟩ :=
        manifest_of_resolved (r := r.under .resolve) rfl escapes
      refine ⟨_, manifest_of_accepted hmount haccepted, ?_, hdropped⟩
      rw [hentries, ← (locate_eq_ok hlocation).1, finish]
      rfl
    | inside within _ _ =>
      obtain rfl := Option.some.inj hq
      exact absurd within hbeyond
  case inside =>
    intro q hq hwithin
    cases hwalk with
    | climbs _ _ => cases hq
    | outside beyond _ _ _ =>
      obtain rfl := Option.some.inj hq
      exact absurd hwithin beyond
    | inside _ stays declared =>
      exact ⟨declared, manifest_of_inside hmount hlocation stays⟩

/-- A link two levels below the execution root and one below its mount. -/
def detour (target : String) : Link := ⟨.ofString "d/k", some target, false⟩

/-- A directory whose name only begins like that of the mount is outside. A target that leaves the
fileset and comes back is inside. One that goes up once more than there are levels is refused. -/
theorem detours_by_walk :
    ((brief.under .error).manifest [detour "../../fs2/y"] (.ofString "x/../out/fs")).1 =
      .error (.forbiddenLink "../../fs2/y" (.ofString "out/fs/d/k")) ∧
    (∃ m, ((brief.under .resolve).manifest [detour "../../fs2/y"]
        (.ofString "x/../out/fs")).1 = .ok m ∧
      m.entries.entries = [(.ofString "out/fs/d/k", some "/root/out/fs2/y")]) ∧
    ((brief.under .resolve).manifest [detour "../../../../z"] (.ofString "x/../out/fs")).1 =
      .error (.forbiddenLink "../../../../z" (.ofString "out/fs/d/k")) ∧
    (detour "../../../out/./fs/x").declaration (.ofString "out/fs") (.ofString "out/fs/d/k") =
      .inside "../../../out/./fs/x" := by
  have hplace : locate (.ofString "out/fs") (detour "") = .ok (.ofString "out/fs/d/k") :=
    ok_of_toOption (by decide)
  have hdecided : ∀ target, (detour target).relativeTarget? = some target →
      brief.DecidedBy (detour target) (.ofString "x/../out/fs") (.ofString "out/fs/d/k") target
        ((Path.ofString "out/fs/d").reach? (Path.ofString target).segments) := fun target h =>
    classified_by_walk brief (detour target) _ _ target rfl hplace h
  have hlookalike : (Path.ofString "out/fs/d").reach? (Path.ofString "../../fs2/y").segments =
      some (.ofString "out/fs2/y") := by decide
  have hbeyond : ¬ (Path.ofString "x/../out/fs").normalize.segments <+:
      (Path.ofString "out/fs2/y").segments := by decide
  have houtside := hdecided "../../fs2/y" (by decide)
  obtain ⟨m, hm, hentries, -⟩ := houtside.resolved _ hlookalike hbeyond
  refine ⟨houtside.refused.mpr (.inr ⟨_, hlookalike, hbeyond⟩), ⟨m, hm, hentries⟩, ?_, ?_⟩
  · exact (hdecided "../../../../z" (by decide)).climbs.mpr (by decide)
  · exact ((hdecided "../../../out/./fs/x" (by decide)).inside (.ofString "out/fs/x") (by decide)
      (by decide)).1

end InputStaging.Resolver
