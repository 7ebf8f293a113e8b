import InputStaging.Proofs.Fileset.Accounts
import InputStaging.Proofs.Fileset.Apart
import InputStaging.Proofs.Rejudged

/-!
# Filesets written as a whole

A fileset is written entry by entry, and nothing is taken back when an entry is refused. All the
same it is written as a whole or not at all where it is mounted beneath the sandbox root: whatever
refuses one of its locations there refuses the first one. Mounted at the root itself it may have an
entry that names the root, and is cut short there.
-/

namespace InputStaging

namespace Path

variable {base : Option Spelling} {dir p q d : Path}

/-- The base directory keeps clean locations apart. -/
theorem eq_of_destination (hp : p.Clean) (hq : q.Clean)
    (h : destination base (.ofPath p) = .ok d) (h' : destination base (.ofPath q) = .ok d) :
    p = q := by
  obtain ⟨root, hroot, hsegs⟩ := destination_of_clean hp h
  obtain ⟨root', hroot', hsegs'⟩ := destination_of_clean hq h'
  obtain rfl := Except.ok.inj (hroot.symm.trans hroot')
  refine Path.ext ?_ (List.append_cancel_left (hsegs.symm.trans hsegs'))
  rw [root_of_relative hp.relative, root_of_relative hq.relative]

/-- Where one clean location has a destination, another one is refused only for a drive, or for
being the sandbox root. -/
theorem refused_beside {failure : Failure} (hp : p.Clean) (hq : q.Clean) (hp' : p.NulFree)
    (hq' : q.NulFree) (hok : destination base (.ofPath p) = .ok d)
    (herror : destination base (.ofPath q) = .error failure) :
    p.hasDrive = false ∧ (q.hasDrive = true ∨
      q = here ∧ baseDirectory base = .ok here ∧ failure = .location "." .isSandboxRoot) := by
  rw [destination_eq_of_clean hp hp'] at hok
  rw [destination_eq_of_clean hq hq'] at herror
  split at hok
  · cases hok
  next hdrive =>
    refine ⟨eq_false_of_ne_true hdrive, Decidable.or_iff_not_imp_left.mpr fun hq => ?_⟩
    rw [if_neg hq] at herror
    cases hbase : baseDirectory base with
    | error e =>
      rw [hbase] at hok
      cases hok
    | ok dir =>
      rw [hbase, Except.bind] at herror
      split at herror
      next hroot =>
        obtain ⟨rfl, rfl⟩ := hroot
        exact ⟨rfl, rfl, (Except.error.inj herror).symm⟩
      · cases herror

/-- Beneath a directory other than the root, its first segment comes first. -/
theorem StandsIn.hasDrive_eq (h : p.StandsIn dir) (hne : dir.segments ≠ []) :
    p.hasDrive = dir.hasDrive := by
  obtain ⟨rest, hrest⟩ := h.beneath
  rw [hasDrive, hasDrive, ← hrest, List.head?_append_of_ne_nil _ hne]

end Path

namespace Resolver

variable {r : Resolver} {links : List Link} {mount : Spelling} {base : Option Spelling}
  {m : Manifest} {location : Path}

theorem nulFree_of_located {mount : Path} {l : Link} (hmount : mount.NulFree)
    (h : locate mount l = .ok location) : location.NulFree := by
  obtain ⟨rfl, hname, -⟩ := locate_eq_ok h
  have hl : l.name.NulFree := by
    unfold locate at h
    cases hn : (Spelling.ofPath l.name).relative with
    | error e => simp [hn, bind, Except.bind] at h
    | ok name => exact Path.nulFree_iff.mpr (Spelling.relative_eq_ok_iff.mp hn).1
  refine Path.NulFree.normalize fun s hs => ?_
  rw [Path.segments_div hname, List.mem_append] at hs
  exact hs.elim (hmount s) (hl s)

theorem nulFree_of_manifest (hexact : mount.Exact) (h : (r.manifest links mount).1 = .ok m)
    (hlocation : location ∈ m.entries.keys) : location.NulFree := by
  obtain ⟨hrel, hmount, haccepted, -⟩ := manifest_eq_ok h
  obtain ⟨hn, -, -, -⟩ := Spelling.relative_eq_ok_iff.mp hrel
  obtain ⟨l, hl, rfl⟩ := List.mem_map.mp
    (exists_link_of_key_or_dropped (reference_of_manifest h) (.inl hlocation))
  rw [hmount]
  exact nulFree_of_located (Path.nulFree_of_exact hexact hn).normalize
    (located_of_accepted (haccepted l hl))

/-! ## Entries in a table -/

/-- The entries stand in the table, each at a destination of its own, and nothing else there has
changed. -/
structure Laid (r : Resolver) (base : Option Spelling) (entries : List (Path × Option String))
    (t t' : Table Path Input) : Prop where
  entry : ∀ e ∈ entries, ∃ d, Path.destination base (.ofPath e.1) = .ok d ∧
    t'.get? d = some (r.input e.2)
  apart : ∀ e ∈ entries, ∀ e' ∈ entries, ∀ d, Path.destination base (.ofPath e.1) = .ok d →
    Path.destination base (.ofPath e'.1) = .ok d → e = e'
  elsewhere : ∀ d, (∀ e ∈ entries, Path.destination base (.ofPath e.1) ≠ .ok d) →
    t'.get? d = t.get? d

/-- What an entry asks to be written. -/
def write (r : Resolver) (e : Path × Option String) : Path × Input := (e.1, r.input e.2)

theorem laid_of_placed {entries : List (Path × Option String)} {placed : List (Path × Input)}
    (hclean : ∀ e ∈ entries, e.1.Clean) (hnodup : (entries.map Prod.fst).Nodup)
    (hplaced : List.Forall₂ (Placed base) (entries.map r.write) placed) (l : Ledger) :
    r.Laid base entries l.entries (l.putAll placed).entries := by
  have hown : ∀ e ∈ entries, ∀ e' ∈ entries, ∀ d,
      Path.destination base (.ofPath e.1) = .ok d →
      Path.destination base (.ofPath e'.1) = .ok d → e = e' := fun e he e' he' d h h' =>
    List.inj_on_of_nodup_map hnodup he he'
      (Path.eq_of_destination (hclean e he) (hclean e' he') h h')
  have hfrom : ∀ w ∈ placed, ∃ e ∈ entries,
      Path.destination base (.ofPath e.1) = .ok w.1 ∧ w.2 = r.input e.2 := by
    intro w hw
    obtain ⟨w', hw', hwritten⟩ := exists_write_of_placed hplaced hw
    obtain ⟨e, he, rfl⟩ := List.mem_map.mp hw'
    exact ⟨e, he, hwritten.destination, hwritten.input⟩
  constructor
  case apart => exact hown
  case entry =>
    intro e he
    obtain ⟨w, hw, hwritten⟩ := exists_placed_of_write hplaced (List.mem_map_of_mem he)
    refine ⟨w.1, hwritten.destination, ?_⟩
    rw [Ledger.get?_putAll]
    cases hlast : Table.find w.1 placed.reverse with
    | none =>
      exact absurd (List.mem_map_of_mem (List.mem_reverse.mpr hw)) (Table.find_eq_none_iff.mp hlast)
    | some v =>
      obtain ⟨e', he', hdest, hv⟩ := hfrom _ (List.mem_reverse.mp (Table.mem_of_find hlast))
      obtain rfl := hown e he e' he' w.1 hwritten.destination hdest
      rw [Option.some_or, show v = r.input e.2 from hv]
  case elsewhere =>
    intro d hd
    have hnone : Table.find d placed.reverse = none := by
      refine Table.find_eq_none_iff.mpr fun hin => ?_
      obtain ⟨w, hw, rfl⟩ := List.mem_map.mp hin
      obtain ⟨e, he, hdest, -⟩ := hfrom w (List.mem_reverse.mp hw)
      exact hd e he hdest
    rw [Ledger.get?_putAll, hnone, Option.none_or]

theorem clean_of_manifest (h : (r.manifest links mount).1 = .ok m) :
    ∀ e ∈ m.entries.entries, e.1.Clean := fun e he =>
  ((confined_of_manifest h).entries e.1 (List.mem_map_of_mem he)).clean

/-- A fileset that is cut short is cut at an entry. What stands before that one has been laid, and
the entry itself is refused. -/
theorem laid_of_cutShort {failure : Failure} {l l' : Ledger}
    (h : (r.manifest links mount).1 = .ok m) (hcut : CutShort base (r.writes m) failure l l') :
    ∃ before e after, m.entries.entries = before ++ e :: after ∧
      r.Laid base before l.entries l'.entries ∧
      Path.destination base (.ofPath e.1) = .error failure ∧ (before = [] → l' = l) := by
  obtain ⟨ws, w, ws', placed, hws, hplaced, hrefused, rfl⟩ := hcut
  obtain ⟨before, rest, hentries, rfl, hrest⟩ := List.map_eq_append_iff.mp hws
  obtain ⟨e, after, rfl, rfl, -⟩ := List.map_eq_cons_iff.mp hrest
  have hclean := clean_of_manifest h
  have hnodup := m.entries.nodup
  rw [hentries] at hclean hnodup
  refine ⟨before, e, after, hentries, ?_, hrefused, ?_⟩
  · refine laid_of_placed (fun e' he' => hclean e' (List.mem_append_left _ he')) ?_ hplaced l
    exact hnodup.sublist ((List.sublist_append_left _ _).map _)
  · rintro rfl
    cases hplaced
    rfl

/-! ## As a whole -/

/-- All locations have a drive in front, or none has. -/
def Uniform (m : Manifest) : Prop :=
  ∀ p ∈ m.entries.keys, ∀ q ∈ m.entries.keys, p.hasDrive = q.hasDrive

/-- What staging a fileset makes of a plain table. -/
structure Whole (r : Resolver) (links : List Link) (mount : Spelling) (base : Option Spelling)
    (l l' : Ledger) (outcome : Except Failure Nat) : Prop where
  /-- What is returned is the number of entries, and all of them have been laid. -/
  returned : ∀ n, outcome = .ok n → ∃ m, (r.manifest links mount).1 = .ok m ∧
    n = m.entries.size ∧ r.Laid base m.entries.entries l.entries l'.entries
  /-- A failure leaves the table as it was, but for a fileset that is mounted at the root. -/
  failed : ∀ failure, outcome = .error failure → mount.path.normalize ≠ .here → l' = l
  /-- There, unless locations with a drive in front stand beside locations without, it does so as
  well, but for an entry that names the root of the sandbox while the base directory is that root.
  It is refused as such, and what stands before it has been laid. -/
  cut : ∀ failure, outcome = .error failure → mount.path.normalize = .here →
    (∀ m, (r.manifest links mount).1 = .ok m → Uniform m) → l' = l ∨
      Path.baseDirectory base = .ok .here ∧ failure = .location "." .isSandboxRoot ∧
        ∃ m before target after, (r.manifest links mount).1 = .ok m ∧
          m.entries.entries = before ++ (.here, target) :: after ∧
          r.Laid base before l.entries l'.entries

theorem mem_keys_of_split {before after : List (Path × Option String)} {e : Path × Option String}
    (h : m.entries.entries = before ++ e :: after) : e.1 ∈ m.entries.keys :=
  List.mem_map_of_mem (by simp [h])

/-- Beneath a mount other than the root no location is the root, and all of them have a drive in
front or none has. -/
theorem beneath_mount (h : (r.manifest links mount).1 = .ok m)
    (hmount : mount.path.normalize ≠ .here) (hlocation : location ∈ m.entries.keys) :
    location ≠ .here ∧ location.hasDrive = m.mount.hasDrive := by
  obtain ⟨hrel, hdir, -⟩ := manifest_eq_ok h
  obtain ⟨-, habs, -, -⟩ := Spelling.relative_eq_ok_iff.mp hrel
  have hstands := (confined_of_manifest h).entries location hlocation
  have hne : m.mount.segments ≠ [] := by
    rw [hdir]
    intro hnil
    exact hmount (Path.ext (Path.root_of_relative (Path.isAbsolute_normalize habs)) hnil)
  refine ⟨?_, hstands.hasDrive_eq hne⟩
  rintro rfl
  exact hne (List.prefix_nil.mp hstands.beneath)

/-- Where staging a fileset fails after something was written, an entry is refused that has a drive
in front, which another one has not, or that is the root. -/
theorem refused_of_stage {p p' : Progress} {failure : Failure} (hexact : mount.Exact)
    (hplain : p.ledger.mode = .overwrite)
    (h : (r.stage links mount base).run.run p = (.error failure, p')) :
    p'.ledger = p.ledger ∨ ∃ m before e after, (r.manifest links mount).1 = .ok m ∧
      m.entries.entries = before ++ e :: after ∧
      r.Laid base before p.ledger.entries p'.ledger.entries ∧
      ((∃ location ∈ m.entries.keys, location.hasDrive = false ∧ e.1.hasDrive = true) ∨
        e.1 = .here ∧ Path.baseDirectory base = .ok .here ∧
          failure = .location "." .isSandboxRoot) := by
  rcases stage_eq_error hplain h with ⟨-, hsame⟩ | ⟨m, hmanifest, hcut⟩
  · exact .inl hsame
  obtain ⟨before, e, after, hentries, hlaid, hrefused, hnothing⟩ := laid_of_cutShort hmanifest hcut
  cases before with
  | nil => exact .inl (hnothing rfl)
  | cons first before =>
    have hfirst : first.1 ∈ m.entries.keys := List.mem_map_of_mem (by simp [hentries])
    have he := mem_keys_of_split hentries
    obtain ⟨d, hdest, -⟩ := hlaid.entry first List.mem_cons_self
    have hconfined := confined_of_manifest hmanifest
    obtain ⟨hdriveless, hwhy⟩ := Path.refused_beside (hconfined.entries _ hfirst).clean
      (hconfined.entries _ he).clean (nulFree_of_manifest hexact hmanifest hfirst)
      (nulFree_of_manifest hexact hmanifest he) hdest hrefused
    refine .inr ⟨m, first :: before, e, after, hmanifest, hentries, hlaid, ?_⟩
    exact hwhy.imp_left fun hdrive => ⟨first.1, hfirst, hdriveless, hdrive⟩

/-- A fileset is laid as a whole, or not at all unless it is mounted at the root. -/
theorem stage_whole (r : Resolver) (links : List Link) (mount : Spelling)
    (base : Option Spelling) (p : Progress) (hexact : mount.Exact)
    (hplain : p.ledger.mode = .overwrite) :
    let staged := (r.stage links mount base).run.run p
    r.Whole links mount base p.ledger staged.2.ledger staged.1 := by
  intro staged
  have hrefused : ∀ failure, staged.1 = .error failure → _ := fun failure hfailure =>
    refused_of_stage hexact hplain (Prod.ext hfailure rfl : staged = (.error failure, staged.2))
  constructor
  case returned =>
    intro n hn
    obtain ⟨m, hmanifest, hsize, placed, hplaced, hp'⟩ :=
      (stage_eq_ok_iff hplain).mp (Prod.ext hn rfl : staged = (.ok n, staged.2))
    refine ⟨m, hmanifest, hsize, ?_⟩
    rw [hp']
    exact laid_of_placed (clean_of_manifest hmanifest) m.entries.nodup hplaced p.ledger
  case failed =>
    intro failure hfailure hmount
    rcases hrefused failure hfailure with
      hsame | ⟨m, before, e, after, hmanifest, hentries, -, hwhy⟩
    · exact hsame
    obtain ⟨hne, hdrive⟩ := beneath_mount hmanifest hmount (mem_keys_of_split hentries)
    rcases hwhy with ⟨location, hlocation, hdriveless, hrefused⟩ | ⟨hroot, -⟩
    · rw [hdrive, ← (beneath_mount hmanifest hmount hlocation).2, hdriveless] at hrefused
      cases hrefused
    · exact absurd hroot hne
  case cut =>
    intro failure hfailure _ huniform
    refine (hrefused failure hfailure).imp_right ?_
    rintro ⟨m, before, ⟨location, target⟩, after, hmanifest, hentries, hlaid, hwhy⟩
    rcases hwhy with ⟨location', hlocation, hdriveless, hdrive⟩ | ⟨rfl, hbase, hfailed⟩
    · have hsame := huniform m hmanifest location' hlocation location (mem_keys_of_split hentries)
      cases hdriveless.symm.trans (hsame.trans hdrive)
    · exact ⟨hbase, hfailed, m, before, target, after, hmanifest, hentries, hlaid⟩

/-- Two links, of which the second one stands for the fileset itself. -/
def itself : List Link := [⟨.ofString "a", some "/t", false⟩, ⟨.ofString ".", some "/u", false⟩]

theorem itself_whole_beneath_out :
    (Spelling.ofString "").Exact ∧
    ∃ p, (brief.stage itself (.ofString "") (some (.ofString "out"))).run.run {} = (.ok 2, p) ∧
      brief.Whole itself (.ofString "") (some (.ofString "out")) {} p.ledger (.ok 2) ∧
      p.ledger.entries.get? (.ofString "out") = some (.location (.ofString "/u")) := by
  have hexact := Spelling.exact_ofString ""
  let staged := (brief.stage itself (.ofString "") (some (.ofString "out"))).run.run {}
  have hok : staged.1 = .ok 2 := ok_of_toOption (by decide +kernel)
  have hread : staged.2.ledger.entries.get? (.ofString "out") =
      some (.location (.ofString "/u")) := by decide +kernel
  have hwhole := stage_whole brief itself (.ofString "") (some (.ofString "out")) {} hexact rfl
  refine ⟨hexact, staged.2, Prod.ext hok rfl, ?_, hread⟩
  have hstaged : brief.Whole itself (.ofString "") (some (.ofString "out")) {} staged.2.ledger
    staged.1 := hwhole
  rwa [hok] at hstaged

/-- Not every failure leaves the table as it was. -/
theorem itself_cut_at_root :
    ¬ ∀ (r : Resolver) (links : List Link) (mount : Spelling) (base : Option Spelling)
      (p p' : Progress) (failure : Failure), mount.Exact → p.ledger.mode = .overwrite →
      (r.stage links mount base).run.run p = (.error failure, p') →
      p'.ledger.entries = p.ledger.entries := by
  intro h
  let staged := (brief.stage itself (.ofString "") none).run.run {}
  have hfailed : staged.1 = .error (.location "." .isSandboxRoot) := by rfl
  have hsame := h brief itself (.ofString "") none {} staged.2 _ (Spelling.exact_ofString _) rfl
    (Prod.ext hfailed rfl)
  have hlaid : staged.2.ledger.entries.get? (.ofString "a") =
      some (.location (.ofString "/t")) := by decide +kernel
  rw [hsame] at hlaid
  cases hlaid

end Resolver

end InputStaging
