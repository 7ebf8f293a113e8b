import InputStaging.Document.Schema
import InputStaging.Yaml.Unfold
import Mathlib.Data.List.Perm.Basic

/-!
# Documents with sets

The elements of a set come out of it in some order, which is not the file's. Another order changes
nothing but the order of what is read: the same sets are accepted, and the same elements are read.
-/

namespace InputStaging

namespace Document

variable {α : Type} {read : Reader α} {ds ds' : List Document} {as : List α}

/-- Items are read exactly if each of them is, to what each of them is read to. -/
theorem readItems_eq_ok_iff {i : Nat} :
    readItems read i ds = .ok as ↔ List.Forall₂ (fun d a => read d = .ok a) ds as := by
  induction ds generalizing i as with
  | nil =>
    rw [List.forall₂_nil_left_iff, readItems, Except.ok.injEq]
    exact eq_comm
  | cons d rest ih =>
    rw [List.forall₂_cons_left_iff, readItems]
    cases hd : read d with
    | error vs =>
      refine ⟨fun h => ?_, fun ⟨_, _, ha, _⟩ => nomatch ha⟩
      cases hrest : readItems read (i + 1) rest <;> rw [hrest] at h <;> cases h
    | ok a =>
      cases hrest : readItems read (i + 1) rest with
      | error vs =>
        refine ⟨nofun, fun ⟨_, bs, _, hbs, _⟩ => ?_⟩
        cases hrest.symm.trans (ih.mpr hbs)
      | ok bs =>
        constructor
        · intro h
          obtain rfl := Except.ok.inj h
          exact ⟨a, bs, rfl, ih.mp hrest, rfl⟩
        · rintro ⟨a', bs', ha, hbs, rfl⟩
          obtain rfl := Except.ok.inj ha
          obtain rfl := Except.ok.inj (hrest.symm.trans (ih.mpr hbs))
          rfl

/-- In whatever order the elements come out of a set, the same ones are read, in that order. -/
theorem readList_set_of_perm (h : ds'.Perm ds) (hread : readList read (.set ds) = .ok as) :
    ∃ as', readList read (.set ds') = .ok as' ∧ as'.Perm as := by
  obtain ⟨as', hds', has⟩ := List.perm_comp_forall₂ h (readItems_eq_ok_iff.mp hread)
  exact ⟨as', readItems_eq_ok_iff.mpr hds', has⟩

end Document

namespace Yaml.Unfold

variable {shapes : Array (Option Shape)} {part : NodeId → Option Document}
  {es : List (NodeId × NodeId)} {ds : List Document}

/-- A set that is written in a file is a set of the same elements in every order. -/
theorem document?_set (order order' : SetOrder)
    (h : document? order shapes part (.set es) = some (.set ds)) :
    ∃ ds', document? order' shapes part (.set es) = some (.set ds') ∧ ds'.Perm ds := by
  obtain ⟨written, hparts, hset⟩ := Option.map_eq_some_iff.mp h
  obtain rfl := Document.set.inj hset
  refine ⟨order'.arrange written, Option.map_eq_some_iff.mpr ⟨written, hparts, rfl⟩, ?_⟩
  exact (order'.perm written).trans (order.perm written).symm

end Yaml.Unfold

end InputStaging
