import InputStaging.Text.Template

/-!
# Filling templates

A template is read once from its start to its end: what is left of it never grows, so that as many
steps as it has characters are enough. Text of which every percent sign is doubled is written as it
was, and arguments are written into it where they are called for.
-/

namespace InputStaging.Text

namespace Fill

variable {α β : Type} {s s' : Filling}

/-! ## Progress -/

/-- What is left of the template afterwards is no longer than before. -/
def NonGrowing (m : Fill α) : Prop :=
  ∀ s a s', m.run s = .ok (a, s') → s'.rest.length ≤ s.rest.length

theorem nonGrowing_pure (a : α) : NonGrowing (pure a) := by
  intro s a' s' h
  cases h
  exact Nat.le_refl _

/-- A fault leaves nothing behind that could be longer. -/
theorem nonGrowing_throw (fault : TemplateFault) : NonGrowing (throw fault : Fill α) := nofun

theorem nonGrowing_lift (x : Except TemplateFault α) : NonGrowing (liftM x : Fill α) := by
  intro s a s' h
  cases x with
  | error fault => cases h
  | ok a =>
    cases h
    exact Nat.le_refl _

theorem nonGrowing_get : NonGrowing get := by
  intro s a s' h
  cases h
  exact Nat.le_refl _

theorem nonGrowing_drop (n : Nat) : NonGrowing (drop n) := by
  intro s a s' h
  cases h
  simp

theorem nonGrowing_resupply (supply : Supply) : NonGrowing (resupply supply) := by
  intro s a s' h
  cases h
  exact Nat.le_refl _

/-- Two readers one after the other read on, if each of them does. -/
theorem NonGrowing.bind {m : Fill α} {f : α → Fill β} (hm : NonGrowing m)
    (hf : ∀ a, NonGrowing (f a)) : NonGrowing (m >>= f) := by
  intro s b s' h
  rw [StateT.run_bind] at h
  cases hrun : m.run s with
  | error fault => rw [hrun] at h; cases h
  | ok r =>
    rw [hrun] at h
    exact Nat.le_trans (hf r.1 _ _ _ h) (hm _ _ _ hrun)

theorem nonGrowing_check (failed : Prop) [Decidable failed] (fault : TemplateFault) :
    NonGrowing (check failed fault) := by
  unfold check
  split
  · exact nonGrowing_throw _
  · exact nonGrowing_pure _

theorem nonGrowing_peek : NonGrowing peek := nonGrowing_get.bind fun _ => nonGrowing_pure _

theorem nonGrowing_accept (c : Char) : NonGrowing (accept c) := by
  refine nonGrowing_peek.bind fun next => ?_
  split
  · exact (nonGrowing_drop 1).bind fun _ => nonGrowing_pure _
  · exact nonGrowing_pure _

theorem nonGrowing_argument : NonGrowing argument :=
  nonGrowing_get.bind fun _ => (nonGrowing_lift _).bind fun _ =>
    (nonGrowing_resupply _).bind fun _ => nonGrowing_pure _

theorem nonGrowing_argumentName : NonGrowing argumentName := by
  refine (nonGrowing_accept '(').bind fun named => ?_
  split
  case isFalse => exact nonGrowing_pure _
  refine nonGrowing_get.bind fun s => ?_
  split
  · exact nonGrowing_throw _
  · exact nonGrowing_throw _
  · exact (nonGrowing_lift _).bind fun _ => (nonGrowing_resupply _).bind fun _ => nonGrowing_drop _

/-- By induction on the flags that may be left to read. -/
theorem nonGrowing_flags (f : Field) (fuel : Nat) : NonGrowing (flags f fuel) := by
  induction fuel generalizing f with
  | zero => exact nonGrowing_pure _
  | succ fuel ih =>
    refine nonGrowing_peek.bind fun next => ?_
    split
    · exact (nonGrowing_drop 1).bind fun _ => ih _
    · exact nonGrowing_pure _

theorem nonGrowing_digits (most : Nat) (tooBig : TemplateFault) :
    NonGrowing (digits most tooBig) := by
  refine nonGrowing_get.bind fun s => ?_
  exact (nonGrowing_check _ _).bind fun _ => (nonGrowing_drop _).bind fun _ => nonGrowing_pure _

theorem nonGrowing_argumentSize (most : Nat) (tooBig : TemplateFault) :
    NonGrowing (argumentSize most tooBig) :=
  nonGrowing_argument.bind fun _ => (nonGrowing_lift _).bind fun _ =>
    (nonGrowing_check _ _).bind fun _ => nonGrowing_pure _

theorem nonGrowing_width (f : Field) : NonGrowing (width f) := by
  refine (nonGrowing_accept '*').bind fun starred => ?_
  split
  · exact (nonGrowing_argumentSize _ _).bind fun _ => nonGrowing_pure _
  · exact (nonGrowing_digits _ _).bind fun _ => nonGrowing_pure _

theorem nonGrowing_precision (f : Field) : NonGrowing (precision f) := by
  refine (nonGrowing_accept '.').bind fun dotted => ?_
  split
  case isFalse => exact nonGrowing_pure _
  refine (nonGrowing_accept '*').bind fun starred => ?_
  split
  · exact (nonGrowing_argumentSize _ _).bind fun _ => nonGrowing_pure _
  · exact (nonGrowing_digits _ _).bind fun _ => nonGrowing_pure _

theorem nonGrowing_lengthMark : NonGrowing lengthMark := by
  refine nonGrowing_peek.bind fun next => ?_
  split
  · exact nonGrowing_drop 1
  · exact nonGrowing_pure _

/-- All that a conversion is made of reads on. -/
theorem nonGrowing_conversion : NonGrowing conversion := by
  refine nonGrowing_argumentName.bind fun _ => ?_
  refine nonGrowing_get.bind fun s => ?_
  refine (nonGrowing_flags _ _).bind fun f => ?_
  refine (nonGrowing_width f).bind fun f => ?_
  refine (nonGrowing_precision f).bind fun f => ?_
  refine nonGrowing_lengthMark.bind fun _ => ?_
  refine nonGrowing_peek.bind fun next => ?_
  split
  · exact nonGrowing_get.bind fun _ => (nonGrowing_drop 1).bind fun _ =>
      nonGrowing_argument.bind fun _ => nonGrowing_lift _
  · exact nonGrowing_throw _

/-! ## Enough steps -/

section
variable (written more : List Char) (index fuel : Nat) (supply : Supply)

theorem run_fill_nil : (fill written (fuel + 1)).run ⟨[], index, supply⟩ =
    supply.close.map fun _ => (written.reverse, ⟨[], index, supply⟩) := by
  cases h : supply.close <;> simp [fill, h] <;> rfl

/-- Two percent signs write one. -/
theorem run_fill_percent : (fill written (fuel + 1)).run ⟨'%' :: '%' :: more, index, supply⟩ =
    (fill ('%' :: written) fuel).run ⟨more, index + 2, supply⟩ := by
  rfl

/-- A single one is the start of a conversion. -/
theorem run_fill_conversion (hmore : more.head? ≠ some '%') :
    (fill written (fuel + 1)).run ⟨'%' :: more, index, supply⟩ =
      conversion.run ⟨more, index + 1, supply⟩ >>= fun r =>
        (fill (r.1.reverseAux written) fuel).run r.2 := by
  cases more with
  | nil => rfl
  | cons c rest =>
    have hc : c ≠ '%' := by simpa using hmore
    simp only [fill, StateT.run_bind, StateT.run_get]
    simp [hc]
    rfl

theorem run_fill_char {c : Char} (hc : c ≠ '%') :
    (fill written (fuel + 1)).run ⟨c :: more, index, supply⟩ =
      (fill (c :: written) fuel).run ⟨more, index + 1, supply⟩ := by
  simp only [fill, StateT.run_bind, StateT.run_get]
  simp [hc]
  rfl

end

/-- Once there are more steps than characters, there are enough of them. -/
theorem run_fill_add {written : List Char} {fuel : Nat} (h : s.rest.length < fuel) (extra : Nat) :
    (fill written (fuel + extra)).run s = (fill written fuel).run s := by
  induction fuel generalizing written s with
  | zero => omega
  | succ fuel ih =>
    obtain ⟨rest, index, supply⟩ := s
    rw [Nat.add_right_comm]
    match rest with
    | [] => rw [run_fill_nil, run_fill_nil]
    | c :: more =>
      have hmore : more.length < fuel := Nat.lt_of_succ_lt_succ h
      by_cases hc : c = '%'
      case neg =>
        rw [run_fill_char _ _ _ _ _ hc, run_fill_char _ _ _ _ _ hc]
        exact ih hmore
      subst hc
      by_cases hnext : more.head? = some '%'
      case pos =>
        obtain ⟨later, rfl⟩ := List.head?_eq_some_iff.mp hnext
        rw [run_fill_percent, run_fill_percent]
        exact ih (Nat.lt_of_succ_lt hmore)
      case neg =>
        rw [run_fill_conversion _ _ _ _ _ hnext, run_fill_conversion _ _ _ _ _ hnext]
        cases hrun : conversion.run ⟨more, index + 1, supply⟩ with
        | error fault => rfl
        | ok r => exact ih (Nat.lt_of_le_of_lt (nonGrowing_conversion _ _ _ hrun) hmore)

/-! ## Texts with their percent signs doubled -/

/-- Each percent sign twice. -/
def escaped (cs : List Char) : List Char :=
  cs.flatMap fun c => if c = '%' then ['%', '%'] else [c]

/-- Text with its percent signs doubled takes a step for each character, and is written as it was.
-/
theorem run_fill_escaped (cs more : List Char) (written : List Char) (index fuel : Nat)
    (supply : Supply) : ∃ index', (fill written (cs.length + fuel)).run
      ⟨escaped cs ++ more, index, supply⟩ =
        (fill (cs.reverse ++ written) fuel).run ⟨more, index', supply⟩ := by
  induction cs generalizing written index with
  | nil => exact ⟨index, by simp [escaped]⟩
  | cons c cs ih =>
    rw [List.length_cons, Nat.add_right_comm, List.reverse_cons, List.append_assoc,
      List.singleton_append]
    by_cases hc : c = '%'
    · subst hc
      exact ih ('%' :: written) (index + 2)
    · have hstart : escaped (c :: cs) = c :: escaped cs := by simp [escaped, hc]
      rw [hstart, List.cons_append, run_fill_char _ _ _ _ _ hc]
      exact ih (c :: written) (index + 1)

theorem pad_nothing (cs : List Char) : pad {} cs = cs := by
  simp [pad]

/-- Without flags, width and precision a text is written as it is. -/
theorem held_plain (at_ : Nat) (d : Document) : held {} 's' at_ d = .ok d.plain.toList := by
  show Except.ok (pad {} d.plain.toList) = _
  rw [pad_nothing]

theorem run_argument (s : Filling) :
    argument.run s = s.supply.take.map fun r => (r.1, { s with supply := r.2 }) := by
  cases h : s.supply.take <;> simp [argument, h] <;> rfl

/-- What `%s` takes, it writes as it is. -/
theorem run_conversion_plain (more : List Char) (index : Nat) (supply : Supply) :
    conversion.run ⟨'s' :: more, index, supply⟩ =
      supply.take.map fun r => (r.1.plain.toList, ⟨more, index + 1, r.2⟩) := by
  -- No name, no flag, no width, no precision and no length mark stand in front of the letter.
  have hrun : conversion.run ⟨'s' :: more, index, supply⟩ =
      (argument >>= fun d => liftM (held {} 's' index d) : Fill (List Char)).run
        ⟨more, index + 1, supply⟩ := rfl
  rw [hrun, StateT.run_bind, run_argument]
  cases supply.take with
  | error fault => rfl
  | ok r =>
    show (liftM (held {} 's' index r.1) : Fill (List Char)).run ⟨more, index + 1, r.2⟩ = _
    rw [held_plain]
    rfl

/-- Pieces of text with a `%s` between each two. -/
def woven (first : List Char) (later : List (List Char)) : List Char :=
  escaped first ++ later.flatMap fun piece => '%' :: 's' :: escaped piece

/-- The pieces with the arguments between them. -/
def interleaved (first : List Char) : List (List Char) → List Document →
    Except TemplateFault (List Char)
  | [], [] => .ok first
  | [], _ :: _ => .error .tooManyArguments
  | _ :: _, [] => .error .tooFewArguments
  | piece :: later, d :: args => (interleaved piece later args).map (first ++ d.plain.toList ++ ·)

/-- By induction on the pieces: what stands in front of an argument is written, then the argument.
-/
theorem run_fill_woven (first : List Char) (later : List (List Char)) (args : List Document)
    (written : List Char) (index : Nat) {fuel : Nat} (h : (woven first later).length < fuel) :
    ((fill written fuel).run ⟨woven first later, index, .inOrder args⟩).map Prod.fst =
      (interleaved first later args).map (written.reverse ++ ·) := by
  induction later generalizing first args written index fuel with
  | nil =>
    obtain ⟨index', hrun⟩ := run_fill_escaped first [] written index fuel (.inOrder args)
    rw [← run_fill_add h first.length, Nat.add_comm fuel, woven, List.flatMap_nil, hrun]
    obtain ⟨fuel, rfl⟩ : ∃ n, fuel = n + 1 := ⟨fuel - 1, by omega⟩
    rw [run_fill_nil]
    cases args with
    | nil => simp [Supply.close, interleaved, Except.map]
    | cons d args => rfl
  | cons piece later ih =>
    have hwoven : woven first (piece :: later) =
        escaped first ++ '%' :: 's' :: woven piece later := by
      simp [woven]
    obtain ⟨index', hrun⟩ := run_fill_escaped first ('%' :: 's' :: woven piece later) written index
      fuel (.inOrder args)
    rw [← run_fill_add h first.length, Nat.add_comm fuel, hwoven, hrun]
    rw [hwoven, List.length_append, List.length_cons, List.length_cons] at h
    obtain ⟨fuel, rfl⟩ : ∃ n, fuel = n + 1 := ⟨fuel - 1, by omega⟩
    rw [run_fill_conversion _ _ _ _ _ (by simp), run_conversion_plain]
    cases args with
    | nil => rfl
    | cons d args =>
      show ((fill (d.plain.toList.reverseAux (first.reverse ++ written)) fuel).run
        ⟨woven piece later, index' + 1 + 1, .inOrder args⟩).map Prod.fst = _
      rw [ih piece args _ _ (by omega), interleaved]
      cases interleaved piece later args with
      | error fault => rfl
      | ok cs => simp [Except.map]

end Fill

open Fill in
/-- Arguments are written where they are called for, and everything else as it was before its
percent signs were doubled. There must be as many arguments as are called for. -/
theorem format_woven (first : List Char) (later : List (List Char)) {args : List Document}
    (hsome : args ≠ []) (hlone : ∀ e es, args ≠ [.mapping (e :: es)]) :
    format (String.ofList (woven first later)) args =
      (interleaved first later args).map String.ofList := by
  have hsupply : Supply.ofArguments args = .inOrder args := by
    unfold Supply.ofArguments
    split
    case h_1 => exact absurd rfl (hlone _ _)
    case h_2 => rfl
  have hrun : interleaved first later args =
      ((fill [] ((woven first later).length + 1)).run
        ⟨woven first later, 0, .inOrder args⟩).map Prod.fst := by
    rw [run_fill_woven first later args [] 0 (Nat.lt_succ_self _)]
    cases interleaved first later args <;> rfl
  rw [format, if_neg (by simpa using hsome), hsupply, String.toList_ofList, hrun]
  show ((fill [] ((woven first later).length + 1)).run ⟨woven first later, 0, .inOrder args⟩ >>=
    fun r => pure (String.ofList r.1)) = _
  cases (fill [] ((woven first later).length + 1)).run ⟨woven first later, 0, .inOrder args⟩ <;> rfl

end InputStaging.Text
