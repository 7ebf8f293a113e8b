import InputStaging.Document.Schema

/-!
# What readers hand over

A reader hands over a value or refuses the document. What all its values have in common is
said reader by reader, the combined ones on the strength of their parts.
-/

namespace InputStaging

namespace Checked

variable {α β : Type} {P : α → Prop} {Q : β → Prop}

/-- The value has the property, if there is one. -/
def Ensures (x : Checked α) (P : α → Prop) : Prop := ∀ a, x = .ok a → P a

theorem ensures_ok {a : α} (h : P a) : Ensures (.ok a) P := fun _ he => Except.ok.inj he ▸ h

theorem ensures_refuse (e : Expectation) : Ensures (refuse e) P := fun _ he => nomatch he

/-- Any value will do where nothing is asked of it. -/
theorem ensures_any (x : Checked α) : x.Ensures fun _ => True := fun _ _ => trivial

/-- Saying where in the document a value was found does not change it. -/
theorem Ensures.under {x : Checked α} (h : x.Ensures P) (s : Step) : (x.under s).Ensures P := by
  intro a he
  cases x with
  | ok b => exact h a he
  | error vs => cases he

/-- Two values that are read side by side keep what each of them has. -/
theorem Ensures.and {x : Checked α} {y : Checked β} (hx : x.Ensures P) (hy : y.Ensures Q) :
    (x.and y).Ensures fun p => P p.1 ∧ Q p.2 := by
  intro p he
  cases x <;> cases y <;> cases he
  exact ⟨hx _ rfl, hy _ rfl⟩

theorem Ensures.map {x : Checked α} {f : α → β} (h : x.Ensures fun a => Q (f a)) :
    Ensures (Except.map f x) Q := by
  intro b he
  cases x with
  | ok a =>
    obtain rfl := Except.ok.inj he
    exact h a rfl
  | error vs => cases he

/-- Values that are read one after the other have what every single one has. -/
theorem ensures_all {xs : List (Checked α)} (h : ∀ x ∈ xs, x.Ensures P) :
    (all xs).Ensures fun as => ∀ a ∈ as, P a := by
  induction xs with
  | nil => exact ensures_ok (by simp)
  | cons x xs ih =>
    refine Ensures.map ?_
    have hrest := ih fun y hy => h y (List.mem_cons_of_mem _ hy)
    intro p hp
    obtain ⟨hfirst, hrest⟩ := (h x List.mem_cons_self).and hrest p hp
    exact List.forall_mem_cons.mpr ⟨hfirst, hrest⟩

end Checked

namespace Document

variable {α : Type} {P : α → Prop} {read : Reader α}

/-- A name that is read stands in the list of names. -/
theorem readName_ensures (names : List (String × α)) (e : Expectation) (d : Document) :
    (readName names e d).Ensures fun a => a ∈ names.map Prod.snd := by
  intro a he
  unfold readName at he
  split at he
  next s =>
    dsimp only at he
    split at he
    · cases hl : names.lookup (String.ofList
          (Text.lower (Text.trim Text.isBlankOrSeparator s.toList))) with
      | none => rw [hl] at he; cases he
      | some b =>
        rw [hl] at he
        obtain rfl := Except.ok.inj he
        obtain ⟨pre, post, hsplit, -⟩ := List.lookup_eq_some_iff.mp hl
        simp [hsplit]
    · cases he
  next => cases he

/-- A field has what both its default and its reader give. -/
theorem readField_ensures {absent : Checked α} (habsent : absent.Ensures P)
    (hread : ∀ d, (read d).Ensures P) (name : String) (es : List (Document × Document)) :
    (readField name absent read es).Ensures P := by
  refine Checked.Ensures.under ?_ _
  cases valueOf? es name with
  | none => exact habsent
  | some d => exact hread d

/-- A record has what the reader of its fields gives. -/
theorem readRecord_ensures {read : List (Document × Document) → Checked α}
    (hread : ∀ es, (read es).Ensures P) (d : Document) : (readRecord read d).Ensures P := by
  unfold readRecord
  split
  · exact hread _
  · exact Checked.ensures_refuse _

/-- An entry that is put in replaces one, or comes on top; it brings in no other value than its own.
-/
theorem snd_mem_of_putEntry {κ : Type} {same : κ → κ → Bool} {k : κ} {v : α} {e : κ × α}
    {es : List (κ × α)} (h : e ∈ putEntry same k v es) : e.2 = v ∨ e ∈ es := by
  induction es with
  | nil =>
    obtain rfl := List.mem_singleton.mp h
    exact .inl rfl
  | cons e' rest ih =>
    obtain ⟨k', v'⟩ := e'
    unfold putEntry at h
    split at h
    · rcases List.mem_cons.mp h with rfl | h
      · exact .inl rfl
      · exact .inr (List.mem_cons_of_mem _ h)
    · rcases List.mem_cons.mp h with rfl | h
      · exact .inr List.mem_cons_self
      · exact (ih h).imp_right (List.mem_cons_of_mem _)

/-- A value that is left where keys fall together is one of those that were there. -/
theorem snd_of_distinct {κ : Type} (same : κ → κ → Bool) {es : List (κ × α)}
    (h : ∀ e ∈ es, P e.2) : ∀ e ∈ distinct same es, P e.2 := by
  suffices hfold : ∀ acc : List (κ × α), (∀ e ∈ acc, P e.2) →
      ∀ e ∈ es.foldl (fun acc e => putEntry same e.1 e.2 acc) acc, P e.2 from hfold [] (by simp)
  induction es with
  | nil => exact fun acc hacc => hacc
  | cons e rest ih =>
    intro acc hacc
    refine ih (fun e' he' => h e' (List.mem_cons_of_mem _ he')) _ fun e' he' => ?_
    rcases snd_mem_of_putEntry he' with hv | he'
    · rw [hv]
      exact h e List.mem_cons_self
    · exact hacc e' he'

/-- All values of a table of entries have what their reader gives. Keys that fall together only take
away from them. -/
theorem readEntries_ensures (hread : ∀ d, (read d).Ensures P) (d : Document) :
    (readEntries read d).Ensures fun es => ∀ e ∈ es, P e.2 := by
  unfold readEntries
  split
  next es =>
    refine Checked.Ensures.map fun entries he => snd_of_distinct _ ?_
    refine Checked.ensures_all (fun x hx => ?_) entries he
    obtain ⟨e, -, rfl⟩ := List.mem_map.mp hx
    have hentry := (Checked.ensures_any ((readText e.1).under .theKey)).and (hread e.2)
    exact fun p hp => (hentry.under (.key e.1) p hp).2
  next => exact Checked.ensures_refuse _

end Document

end InputStaging
