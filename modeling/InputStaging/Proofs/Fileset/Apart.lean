import InputStaging.Proofs.Fileset.Confined
import InputStaging.Proofs.PlainTable

/-!
# Filesets that are mounted apart

Two directories neither of which holds the other have no location in common, and the base directory
keeps locations apart. So what is staged for one fileset is out of reach of the other, and it makes
no difference which of them comes first.
-/

namespace InputStaging

namespace Path

variable {p q dir dir' : Path} {base : Option Spelling}

/-- A clean location is staged at its own segments, beneath those of the base directory. -/
theorem destination_of_clean {d : Path} (hp : p.Clean)
    (h : destination base (.ofPath p) = .ok d) :
    ∃ root, baseDirectory base = .ok root ∧ d.segments = root.segments ++ p.segments := by
  obtain ⟨-, hc, root, hbase, -, rfl⟩ := destination_eq_ok_iff.mp h
  obtain ⟨-, hsegs, -⟩ := normalize_div (baseDirectory_clean hbase).noUp hp.relative hc
  refine ⟨root, hbase, ?_⟩
  show (root / p).normalize.segments = root.segments ++ p.segments
  rw [hsegs, normalize_of_noUp hp.noUp]

/-- Neither directory is the other one or lies beneath it. -/
structure Apart (dir dir' : Path) : Prop where
  left : ¬ dir.segments <+: dir'.segments
  right : ¬ dir'.segments <+: dir.segments

theorem Apart.destination_ne {d d' : Path} (h : dir.Apart dir') (hp : p.StandsIn dir)
    (hq : q.StandsIn dir') (hd : destination base (.ofPath p) = .ok d)
    (hd' : destination base (.ofPath q) = .ok d') : d ≠ d' := by
  rintro rfl
  obtain ⟨root, hroot, hsegs⟩ := destination_of_clean hp.clean hd
  obtain ⟨root', hroot', hsegs'⟩ := destination_of_clean hq.clean hd'
  obtain rfl := Except.ok.inj (hroot.symm.trans hroot')
  have hsame : p.segments = q.segments := List.append_cancel_left (hsegs.symm.trans hsegs')
  have hbeneath := hp.beneath
  rw [hsame] at hbeneath
  -- Two directories above one location lie above one another.
  rcases List.prefix_or_prefix_of_prefix hbeneath hq.beneath with hle | hle
  · exact h.left hle
  · exact h.right hle

end Path

theorem Table.or_comm_of_disjoint {κ α : Type} [DecidableEq κ] {t t' : Table κ α}
    (h : t.keys.Disjoint t'.keys) (k : κ) (v : Option α) :
    (t.get? k).or ((t'.get? k).or v) = (t'.get? k).or ((t.get? k).or v) := by
  cases ht : t.get? k with
  | none => rfl
  | some a =>
    have hk : k ∈ t.keys := contains_iff.mp (by rw [contains, ht]; rfl)
    have hk' : t'.get? k = none := get?_eq_none_iff.mpr fun hin => h hk hin
    rw [hk', Option.none_or, Option.none_or]

namespace Resolver

variable {r r' : Resolver} {links links' : List Link} {mount mount' : Spelling}
  {base : Option Spelling} {p p₁ q₁ : Progress} {n n' : Nat}

theorem table_disjoint (hapart : mount.path.normalize.Apart mount'.path.normalize)
    (hm : p.ledger.mode = .overwrite) (h : (r.stage links mount base).run.run p = (.ok n, p₁))
    (h' : (r'.stage links' mount' base).run.run p = (.ok n', q₁)) :
    (r.table links mount base).keys.Disjoint (r'.table links' mount' base).keys := by
  intro d hd hd'
  obtain ⟨m, hmanifest, location, hin, hdest⟩ := exists_location_of_table hm h hd
  obtain ⟨m', hmanifest', location', hin', hdest'⟩ := exists_location_of_table hm h' hd'
  have hstands := (confined_of_manifest hmanifest).entries location hin
  have hstands' := (confined_of_manifest hmanifest').entries location' hin'
  rw [(manifest_eq_ok hmanifest).2.1] at hstands
  rw [(manifest_eq_ok hmanifest').2.1] at hstands'
  exact hapart.destination_ne hstands hstands' hdest hdest' rfl

/-- Two filesets that write to different destinations can be staged in either order. -/
theorem stage_comm (hm : p.ledger.mode = .overwrite)
    (hdisjoint : (r.table links mount base).keys.Disjoint (r'.table links' mount' base).keys)
    (h : (r.stage links mount base).run.run p = (.ok n, p₁))
    (h' : (r'.stage links' mount' base).run.run p = (.ok n', q₁)) :
    ∃ p₂ q₂, (r'.stage links' mount' base).run.run p₁ = (.ok n', p₂) ∧
      (r.stage links mount base).run.run q₁ = (.ok n, q₂) ∧
      ∀ d, q₂.ledger.entries.get? d = p₂.ledger.entries.get? d := by
  obtain ⟨hm₁, hentries⟩ := get?_of_stage hm h
  obtain ⟨hm₁', hentries'⟩ := get?_of_stage hm h'
  obtain ⟨p₂, h₂⟩ := stage_of_stage hm hm₁ h'
  obtain ⟨q₂, h₂'⟩ := stage_of_stage hm hm₁' h
  refine ⟨p₂, q₂, h₂, h₂', fun d => ?_⟩
  rw [(get?_of_stage hm₁ h₂).2 d, (get?_of_stage hm₁' h₂').2 d, hentries, hentries',
    Table.or_comm_of_disjoint hdisjoint]

/-- A fileset comes to no place outside the directory it is mounted at. So two of them that are
mounted apart write to different destinations, and a table ends up the same in whichever order they
are staged. -/
theorem filesets_keep_apart (r r' : Resolver) (links links' : List Link) (mount mount' : Spelling)
    (base : Option Spelling) (p : Progress) (n n' : Nat) :
    (∀ m, (r.manifest links mount).1 = .ok m →
      m.mount = mount.path.normalize ∧ r.Confined links m) ∧
    (mount.path.normalize.Apart mount'.path.normalize → p.ledger.mode = .overwrite →
      ((r.stage links mount base).run.run p).1 = .ok n →
      ((r'.stage links' mount' base).run.run p).1 = .ok n' →
      (r.table links mount base).keys.Disjoint (r'.table links' mount' base).keys ∧
      ∃ p₁ p₂ q₁ q₂,
        (r.stage links mount base).run.run p = (.ok n, p₁) ∧
        (r'.stage links' mount' base).run.run p₁ = (.ok n', p₂) ∧
        (r'.stage links' mount' base).run.run p = (.ok n', q₁) ∧
        (r.stage links mount base).run.run q₁ = (.ok n, q₂) ∧
        (∀ d, p₂.ledger.entries.get? d = ((r.table links mount base).get? d).or
          (((r'.table links' mount' base).get? d).or (p.ledger.entries.get? d))) ∧
        ∀ d, q₂.ledger.entries.get? d = p₂.ledger.entries.get? d) := by
  refine ⟨fun m h => ⟨(manifest_eq_ok h).2.1, confined_of_manifest h⟩, ?_⟩
  intro hapart hm hok hok'
  have h : (r.stage links mount base).run.run p = (.ok n, _) := Prod.ext hok rfl
  have h' : (r'.stage links' mount' base).run.run p = (.ok n', _) := Prod.ext hok' rfl
  have hdisjoint := table_disjoint hapart hm h h'
  obtain ⟨p₂, q₂, h₂, h₂', hsame⟩ := stage_comm hm hdisjoint h h'
  obtain ⟨hm₁, hentries⟩ := get?_of_stage hm h
  refine ⟨hdisjoint, _, p₂, _, q₂, h, h₂, h', h₂', fun d => ?_, hsame⟩
  rw [(get?_of_stage hm₁ h₂).2 d, hentries, ← Table.or_comm_of_disjoint hdisjoint]

/-- A chain that leaves the fileset and comes back, a name that does, and a link that escapes to a
directory whose name only begins like that of the fileset. -/
def excursions : List Link :=
  [⟨.ofString "a", some "../fs/b", false⟩, ⟨.ofString "../fs/b", some "c/../d", false⟩,
   ⟨.ofString "d", some "/t", false⟩, ⟨.ofString "e", some "../fs2/d", false⟩]

/-- The directory of that name, with a fileset of its own. -/
def lookalike : List Link := [⟨.ofString "d", none, false⟩, ⟨.ofString "e", some "d", false⟩]

theorem excursions_keep_apart :
    (Path.ofString "x/../out/fs").normalize.Apart (Path.ofString "out/fs2").normalize ∧
    (∃ m, (brief.manifest excursions (.ofString "x/../out/fs")).1 = .ok m ∧
      m.dropped = [.ofString "out/fs/e"] ∧ brief.Confined excursions m) ∧
    ∃ p₁ p₂ q₁ q₂,
      (brief.stage excursions (.ofString "x/../out/fs") none).run.run {} = (.ok 3, p₁) ∧
      (brief.stage lookalike (.ofString "out/fs2") none).run.run p₁ = (.ok 2, p₂) ∧
      (brief.stage lookalike (.ofString "out/fs2") none).run.run {} = (.ok 2, q₁) ∧
      (brief.stage excursions (.ofString "x/../out/fs") none).run.run q₁ = (.ok 3, q₂) ∧
      p₁.ledger.entries.get? (.ofString "out/fs/a") = some (.location (.ofString "/t")) ∧
      ∀ d, q₂.ledger.entries.get? d = p₂.ledger.entries.get? d := by
  have hapart : (Path.ofString "x/../out/fs").normalize.Apart
      (Path.ofString "out/fs2").normalize := ⟨by decide, by decide⟩
  let staged := (brief.stage excursions (.ofString "x/../out/fs") none).run.run {}
  let staged' := (brief.stage lookalike (.ofString "out/fs2") none).run.run {}
  have hok : staged.1 = .ok 3 := ok_of_toOption (by decide +kernel)
  have hok' : staged'.1 = .ok 2 := ok_of_toOption (by decide +kernel)
  have hlanded : staged.2.ledger.entries.get? (.ofString "out/fs/a") =
      some (.location (.ofString "/t")) := by decide +kernel
  have hread : (brief.manifest excursions (.ofString "x/../out/fs")).1.toOption.map
      (·.dropped) = some [.ofString "out/fs/e"] := by decide +kernel
  obtain ⟨m, hm, hdropped⟩ := Option.map_eq_some_iff.mp hread
  obtain ⟨hconfined, hkeep⟩ := filesets_keep_apart brief brief excursions lookalike
    (.ofString "x/../out/fs") (.ofString "out/fs2") none {} 3 2
  obtain ⟨-, p₁, p₂, q₁, q₂, h₁, h₂, h₁', h₂', -, hsame⟩ := hkeep hapart rfl hok hok'
  have hmanifest := ok_of_toOption hm
  refine ⟨hapart, ⟨m, hmanifest, hdropped, (hconfined m hmanifest).2⟩, p₁, p₂, q₁, q₂, h₁, h₂, h₁',
    h₂', ?_, hsame⟩
  have hp₁ : staged.2 = p₁ := congrArg Prod.snd h₁
  rw [hp₁] at hlanded
  exact hlanded

end Resolver

end InputStaging
