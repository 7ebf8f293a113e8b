import InputStaging.Proofs.Fileset.Repeats

/-!
# Rearranged declarations

Where no two links of a fileset stand at the same location, the order in which they are declared
is of no account. Forward references, chains that are declared backwards and chains at the limit
come out the same. Only the order of what is left out, and of the entries, follows the list.
-/

namespace InputStaging

/-- Among entries with different keys it does not matter where one stands. -/
theorem Table.find_of_perm {κ α : Type} [DecidableEq κ] {l l' : List (κ × α)} (h : l'.Perm l)
    (hnodup : (l.map Prod.fst).Nodup) (k : κ) : find k l' = find k l := by
  have hnodup' : (l'.map Prod.fst).Nodup := (h.map Prod.fst).nodup_iff.mpr hnodup
  refine Option.ext fun v => ?_
  rw [find_eq_some_iff hnodup', find_eq_some_iff hnodup, h.mem_iff]

namespace Resolver

variable {r : Resolver} {mount : Path} {links links' : List Link}

theorem places_sublist {α : Type} (declared? : Link → Option α) (mount : Path)
    (links : List Link) :
    ((links.filterMap fun l => (declared? l).map fun target => (l.place mount, target)).map
      Prod.fst).Sublist (links.map (·.place mount)) := by
  induction links with
  | nil => exact .slnil
  | cons l rest ih =>
    cases hl : declared? l with
    | none =>
      rw [List.filterMap_cons_none (by rw [hl]; rfl), List.map_cons]
      exact ih.cons _
    | some target =>
      rw [List.filterMap_cons_some (by rw [hl]; rfl), List.map_cons, List.map_cons]
      exact ih.cons_cons _

/-- The first direct link at a location is the only one there. -/
theorem directAt_perm (hperm : links'.Perm links)
    (hdistinct : (links.map (·.place mount)).Nodup) :
    r.directAt mount links' = r.directAt mount links := by
  have hnodup : ((r.directs mount links).map Prod.fst).Nodup :=
    hdistinct.sublist (places_sublist (r.directTarget? mount) mount links)
  funext p
  exact Table.find_of_perm (hperm.filterMap _) hnodup p

theorem linkAt_perm (hperm : links'.Perm links)
    (hdistinct : (links.map (·.place mount)).Nodup) :
    linkAt mount links' = linkAt mount links := by
  have hnodup : ((insides mount links).map Prod.fst).Nodup :=
    hdistinct.sublist (places_sublist (·.insideTarget? mount) mount links)
  have hreversed : (insides mount links').reverse.Perm (insides mount links) :=
    (List.reverse_perm _).trans (hperm.filterMap _)
  have hforth : ∀ p, Table.find p (insides mount links).reverse =
      Table.find p (insides mount links) :=
    Table.find_of_perm (List.reverse_perm _) hnodup
  funext p
  show Table.find p (insides mount links').reverse = Table.find p (insides mount links).reverse
  rw [Table.find_of_perm hreversed hnodup, hforth]

/-- What the policy leaves out is judged link by link. -/
theorem ignored_perm (hperm : links'.Perm links) :
    (r.ignored mount links').Perm (r.ignored mount links) := by
  unfold ignored
  split
  · exact (hperm.filter _).map _
  · exact .refl _

/-- The links that are dropped for where they lead are known by the two maps, and dropped once. -/
theorem unsettled_perm {m m' : Manifest} (href : r.Reference links m)
    (href' : r.Reference links' m') (hmount : m'.mount = m.mount)
    (hlinks : linkAt m.mount links' = linkAt m.mount links)
    (hdirects : r.directAt m.mount links' = r.directAt m.mount links) :
    ∃ unsettled unsettled', unsettled'.Perm unsettled ∧
      m.dropped = r.ignored m.mount links ++ unsettled ∧
      m'.dropped = r.ignored m.mount links' ++ unsettled' := by
  obtain ⟨unsettled, hdropped, hnodup, hmem⟩ := href.dropped
  obtain ⟨unsettled', hdropped', hnodup', hmem'⟩ := href'.dropped
  rw [hmount] at hdropped' hmem'
  have hsettles : ∀ p target, r.Settles m.mount links' p target ↔
      r.Settles m.mount links p target := by
    intro p target
    rw [Settles, Settles, hlinks, hdirects]
  have hsame : ∀ p, p ∈ unsettled' ↔ p ∈ unsettled := by
    intro p
    rw [hmem, hmem', hlinks]
    simp only [hsettles]
  exact ⟨unsettled, unsettled', (List.perm_ext_iff_of_nodup hnodup' hnodup).mpr hsame, hdropped,
    hdropped'⟩

/-- Rearranged, the links of a fileset are still read or still refused. If no two of them stand
at one location, there are the same entries then, and the same links are dropped. -/
theorem manifest_perm (r : Resolver) (links links' : List Link) (mount : Spelling)
    (hperm : links'.Perm links) :
    ((∃ m', (r.manifest links' mount).1 = .ok m') ↔ ∃ m, (r.manifest links mount).1 = .ok m) ∧
    ((links.map (·.place mount.path.normalize)).Nodup →
      ∀ m m', (r.manifest links mount).1 = .ok m → (r.manifest links' mount).1 = .ok m' →
        (∀ p, m'.entries.get? p = m.entries.get? p) ∧ m'.dropped.Perm m.dropped) := by
  constructor
  · rw [manifest_isOk_iff, manifest_isOk_iff]
    simp only [hperm.mem_iff]
  · intro hdistinct m m' h h'
    have hlinks := linkAt_perm hperm hdistinct
    have hdirects := r.directAt_perm hperm hdistinct
    obtain ⟨-, hm, -⟩ := manifest_eq_ok h
    obtain ⟨-, hm', -⟩ := manifest_eq_ok h'
    refine ⟨entries_congr h h' hlinks fun p _ => by rw [hdirects], ?_⟩
    rw [← hm] at hlinks hdirects
    obtain ⟨unsettled, unsettled', hunsettled, hdropped, hdropped'⟩ :=
      unsettled_perm (reference_of_manifest h) (reference_of_manifest h') (hm'.trans hm.symm)
        hlinks hdirects
    rw [hdropped, hdropped']
    exact (ignored_perm hperm).append hunsettled

/-- A chain at the limit that is declared backwards, one beyond it, a cycle with a link that leads
into it, a link that escapes, and one that leads nowhere. -/
def scattered : List Link :=
  [⟨.ofString "f", some "c", false⟩, ⟨.ofString "c", some "b", false⟩,
   ⟨.ofString "b", some "./a", false⟩, ⟨.ofString "g", some "../../g", false⟩,
   ⟨.ofString "d", some "e", false⟩, ⟨.ofString "x/../e", some "e", false⟩,
   ⟨.ofString "h", some "gone", false⟩, ⟨.ofString "a", some "/t", false⟩]

theorem scattered_reversed :
    ∃ m m', (brief.manifest scattered (.ofString "fs")).1 = .ok m ∧
      (brief.manifest scattered.reverse (.ofString "fs")).1 = .ok m' ∧
      m.entries.get? (.ofString "fs/c") = some (some "/t") ∧
      m.dropped.map Path.text = ["fs/g", "fs/f", "fs/d", "fs/e", "fs/h"] ∧
      m'.dropped.map Path.text = ["fs/g", "fs/h", "fs/e", "fs/d", "fs/f"] ∧
      (∀ p, m'.entries.get? p = m.entries.get? p) ∧ m'.dropped.Perm m.dropped := by
  have hc : (brief.manifest scattered (.ofString "fs")).1.toOption.map (fun m =>
      (m.entries.get? (.ofString "fs/c"), m.dropped.map Path.text)) =
      some (some (some "/t"), ["fs/g", "fs/f", "fs/d", "fs/e", "fs/h"]) := by decide +kernel
  have hc' : (brief.manifest scattered.reverse (.ofString "fs")).1.toOption.map (fun m =>
      m.dropped.map Path.text) = some ["fs/g", "fs/h", "fs/e", "fs/d", "fs/f"] := by
    decide +kernel
  have hdistinct : (scattered.map (·.place (.ofString "fs"))).Nodup := by
    decide +kernel
  obtain ⟨hreads, hsame⟩ := manifest_perm brief scattered scattered.reverse (.ofString "fs")
    scattered.reverse_perm
  cases h : (brief.manifest scattered (.ofString "fs")).1 with
  | error failure => simp [h, Except.toOption] at hc
  | ok m =>
    obtain ⟨m', h'⟩ := hreads.mpr ⟨m, h⟩
    simp only [h, h', Except.toOption, Option.map_some, Option.some.injEq, Prod.mk.injEq] at hc hc'
    exact ⟨m, m', rfl, h', hc.1, hc.2, hc', hsame hdistinct m m' h h'⟩

end Resolver

end InputStaging
