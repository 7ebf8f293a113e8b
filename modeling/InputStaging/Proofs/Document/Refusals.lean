import InputStaging.Document.Schema

/-!
# Where readers find fault

A reader that looks at a document as a whole has one thing to say against it, and says it of the
document itself. Put together, readers report in the order of the schema, each about its own part
and no part twice.
-/

namespace InputStaging

namespace Checked

variable {α β : Type} {x : Checked α} {y : Checked β} {places : List (List Step)}

/-- What is wrong is located at some of the places, in their order. -/
def FaultyAt (x : Checked α) (places : List (List Step)) : Prop :=
  ∀ vs, x = .error vs → vs ≠ [] ∧ (vs.map Violation.location).Sublist places

/-- Where nothing is wrong, any places will do. -/
theorem faultyAt_ok (a : α) : FaultyAt (.ok a) places := nofun

/-- A refusal is about the document that is being read. -/
theorem faultyAt_refuse (e : Expectation) : FaultyAt (refuse e : Checked α) [[]] := by
  rintro vs he
  obtain rfl := Except.error.inj he
  exact ⟨List.cons_ne_nil _ _, .refl _⟩

theorem faultyAt_getD (found : Option α) (e : Expectation) :
    FaultyAt ((found.map .ok).getD (refuse e)) [[]] := by
  cases found with
  | none => exact faultyAt_refuse e
  | some a => exact faultyAt_ok a

/-- One step further up, the same faults are one step further down. -/
theorem FaultyAt.under (h : x.FaultyAt places) (s : Step) :
    (x.under s).FaultyAt (places.map (s :: ·)) := by
  rintro vs he
  cases x with
  | ok a => cases he
  | error ws =>
    obtain rfl := Except.error.inj he
    obtain ⟨hne, hsub⟩ := h ws rfl
    refine ⟨mt List.map_eq_nil_iff.mp hne, ?_⟩
    rw [List.map_map]
    have hmap := hsub.map (s :: ·)
    rwa [List.map_map] at hmap

/-- Of two readers side by side, both have their say, the first one first. -/
theorem FaultyAt.and {places' : List (List Step)} (hx : x.FaultyAt places)
    (hy : y.FaultyAt places') : (x.and y).FaultyAt (places ++ places') := by
  rintro vs he
  cases x with
  | ok a =>
    cases y with
    | ok b => cases he
    | error ws =>
      obtain rfl := Except.error.inj he
      obtain ⟨hne, hsub⟩ := hy ws rfl
      exact ⟨hne, hsub.trans (List.sublist_append_right _ _)⟩
  | error ws =>
    obtain ⟨hne, hsub⟩ := hx ws rfl
    cases y with
    | ok b =>
      obtain rfl := Except.error.inj he
      exact ⟨hne, hsub.trans (List.sublist_append_left _ _)⟩
    | error ws' =>
      obtain rfl := Except.error.inj he
      refine ⟨fun hnil => hne (List.append_eq_nil_iff.mp hnil).1, ?_⟩
      rw [List.map_append]
      exact hsub.append (hy ws' rfl).2

theorem FaultyAt.map (h : x.FaultyAt places) (f : α → β) : FaultyAt (Except.map f x) places := by
  rintro vs he
  cases x with
  | ok a => cases he
  | error ws =>
    obtain rfl := Except.error.inj he
    exact h ws rfl

/-- A second look at a value that was read tells of the same places. -/
theorem FaultyAt.bind {f : α → Checked β} (h : x.FaultyAt places)
    (hf : ∀ a, (f a).FaultyAt places) : FaultyAt (x >>= f) places := by
  cases x with
  | ok a => exact hf a
  | error ws =>
    rintro vs he
    obtain rfl := Except.error.inj he
    exact h ws rfl

end Checked

namespace Document

open Checked

variable {α : Type}

/-- A text that cannot be encoded is refused before it is read. -/
theorem readEncoded_faultyAt {e : Expectation} {read : String → Checked α}
    (h : ∀ s, (read s).FaultyAt [[]]) (d : Document) : (readEncoded e read d).FaultyAt [[]] := by
  unfold readEncoded
  split
  · split
    · exact h _
    · exact faultyAt_refuse _
  · exact faultyAt_refuse _

theorem truthOfWhole_faultyAt (n : Int) : (truthOfWhole n).FaultyAt [[]] := by
  unfold truthOfWhole
  split
  · exact faultyAt_ok _
  · split
    · exact faultyAt_ok _
    · exact faultyAt_refuse _

theorem wholeOfText_faultyAt (s : String) : (wholeOfText s).FaultyAt [[]] := by
  unfold wholeOfText
  split
  · exact faultyAt_ok _
  · exact faultyAt_refuse _
  · exact faultyAt_refuse _

/-- A truth value is refused as a whole: there is no place within it. -/
theorem readBool_faultyAt (d : Document) : (readBool d).FaultyAt [[]] := by
  unfold readBool
  split
  · exact faultyAt_ok _
  · split
    · exact truthOfWhole_faultyAt _
    · exact faultyAt_refuse _
  next x =>
    cases wholeInWord? x with
    | none => exact faultyAt_refuse _
    | some n => exact truthOfWhole_faultyAt n
  · exact readEncoded_faultyAt (fun _ => faultyAt_getD _ _) _
  · exact readEncoded_faultyAt (fun _ => faultyAt_getD _ _) _
  · exact faultyAt_refuse _

/-- So is a whole number. -/
theorem readInt_faultyAt (d : Document) : (readInt d).FaultyAt [[]] := by
  unfold readInt
  split
  · exact faultyAt_ok _
  · exact faultyAt_ok _
  · exact faultyAt_refuse _
  · exact faultyAt_refuse _
  · split
    · exact faultyAt_refuse _
    · exact faultyAt_ok _
    · exact faultyAt_refuse _
  · exact readEncoded_faultyAt wholeOfText_faultyAt _
  · exact readEncoded_faultyAt wholeOfText_faultyAt _
  · exact faultyAt_refuse _

theorem readPositive_faultyAt (d : Document) : (readPositive d).FaultyAt [[]] := by
  refine (readInt_faultyAt d).bind fun n => ?_
  split
  · exact faultyAt_ok _
  · exact faultyAt_refuse _

/-- So is a name, be it no text or none of the listed ones. -/
theorem readName_faultyAt (names : List (String × α)) (e : Expectation) (d : Document) :
    (readName names e d).FaultyAt [[]] := by
  unfold readName
  split
  · dsimp only
    split
    · exact faultyAt_getD _ _
    · exact faultyAt_refuse _
  · exact faultyAt_refuse _

/-- Allowing for null adds no fault. -/
theorem orNull_faultyAt {read : Reader α} (h : ∀ d, (read d).FaultyAt [[]]) (d : Document) :
    (orNull read d).FaultyAt [[]] := by
  unfold orNull
  split
  · exact faultyAt_ok _
  · exact (h _).map some

/-- What is wrong with a field of a record is said of the field. -/
theorem readField_faultyAt {absent : Checked α} {read : Reader α} (name : String)
    (habsent : absent.FaultyAt [[]]) (hread : ∀ d, (read d).FaultyAt [[]])
    (es : List (Document × Document)) :
    (readField name absent read es).FaultyAt [[.field name]] := by
  have hvalue : Checked.FaultyAt ((valueOf? es name).elim absent read) [[]] := by
    cases valueOf? es name with
    | none => exact habsent
    | some d => exact hread d
  exact hvalue.under (.field name)

end Document

end InputStaging
