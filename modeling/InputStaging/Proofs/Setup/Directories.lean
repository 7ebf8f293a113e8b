import InputStaging.Setup.Environment
import InputStaging.Proofs.Path.Text

/-!
# Directories

A text names a directory by way of the values of variables and of a home directory. A directory
that has been found has a name of its own, and that can be read once more. Only variables count
then, as the name is absolute, even where the system can no longer tell the working directory; but
the name need not lead back to where it comes from, since the values of variables have become part
of it and may refer to variables themselves.
-/

namespace InputStaging

namespace Path

theorem exists_text_of_isAbsolute {p : Path} (h : p.isAbsolute = true) :
    ∃ rest, p.text.toList = '/' :: rest := by
  have hroot : ¬ (p.root = .relative ∧ p.segments = []) := fun hp => by
    simp [isAbsolute, hp.1] at h
  unfold text
  rw [if_neg hroot, String.toList_append]
  cases hr : p.root with
  | relative => simp [isAbsolute, hr] at h
  | slash => exact ⟨_, rfl⟩
  | doubleSlash => exact ⟨_, rfl⟩

theorem isAbsolute_ofString_slash (rest : List Char) :
    (ofString (String.ofList ('/' :: rest))).isAbsolute = true := by
  have h : Root.ofChars ('/' :: rest) ≠ .relative := by
    unfold Root.ofChars
    split <;> simp_all
  simpa [isAbsolute, ofString] using h

end Path

namespace Environment

variable {e : Environment} {cs : List Char} {root : Path}

/-! ## Variables -/

/-- The system can be asked about every variable that the text refers to. -/
def Speakable (cs : List Char) : Prop := ∀ name ∈ mentioned cs, Text.isSpeakable name.toList = true

theorem all_isSpeakable_iff :
    ((mentioned cs).all fun n => Text.isSpeakable n.toList) = true ↔ Speakable cs :=
  List.all_eq_true

theorem expand_of_ne {c : Char} (h : c ≠ '$') (rest : List Char) :
    e.expand (c :: rest) = c :: e.expand rest := by
  rw [expand, if_neg h]

theorem mentioned_of_noDollar (h : '$' ∉ cs) : mentioned cs = [] := by
  induction cs with
  | nil => rw [mentioned]
  | cons c rest ih =>
    obtain ⟨hc, hrest⟩ := not_or.mp (mt List.mem_cons.mpr h)
    rw [mentioned, if_neg (Ne.symm hc)]
    exact ih hrest

/-- A text stays as it is unless one of the variables that it refers to is set. -/
theorem expand_of_unset (h : ∀ name ∈ mentioned cs, e.vars.get? name = none) :
    e.expand cs = cs := by
  fun_induction mentioned cs with
  | case1 => rw [expand]
  | case2 c rest name n href ih =>
    obtain ⟨hname, hrest⟩ := List.forall_mem_cons.mp h
    rw [dite_eq_ite] at href
    rw [expand, href]
    dsimp only
    rw [ih hrest, valueOr, hname, Option.map_none, Option.getD_none, List.cons_append,
      List.take_append_drop]
  | case3 c rest href ih =>
    rw [dite_eq_ite] at href
    rw [expand, href]
    exact congrArg (c :: ·) (ih h)

theorem expand_of_noDollar (h : '$' ∉ cs) : e.expand cs = cs := by
  refine expand_of_unset ?_
  rw [mentioned_of_noDollar h]
  exact List.forall_mem_nil _

/-! ## What a text names -/

theorem absolute_of_isAbsolute {p : Path} (h : p.isAbsolute = true) :
    e.absolute p = .ok ⟨p, h⟩ := by
  rw [absolute, dif_pos h]

/-- A path is lost exactly if it is relative and the system cannot tell to what. -/
theorem absolute_eq_error_iff {p : Path} {fault : DirectoryFault} :
    e.absolute p = .error fault ↔
      p.isAbsolute = false ∧ ∃ f, e.lost = some f ∧ fault = .lost f := by
  unfold absolute here
  by_cases h : p.isAbsolute = true
  · simp [h]
  · rw [dif_neg h]
    cases e.lost with
    | none => exact ⟨nofun, fun ⟨_, _, hlost, _⟩ => nomatch hlost⟩
    | some f =>
      constructor
      · rintro ⟨⟩
        exact ⟨eq_false_of_ne_true h, f, rfl, rfl⟩
      · rintro ⟨-, f', hlost, rfl⟩
        cases hlost
        rfl

theorem directory_eq (text : String) : e.directory text =
    if (mentioned text.toList).all fun n => Text.isSpeakable n.toList then
      (e.expandHome (.ofString (String.ofList (e.expand text.toList)))).bind e.absolute
    else .error .unspeakable := by
  unfold directory
  cases (mentioned text.toList).all fun n => Text.isSpeakable n.toList <;> rfl

theorem directory_of_noDollar {text : String} (h : '$' ∉ text.toList) :
    e.directory text = (e.expandHome (.ofString text)).bind e.absolute := by
  rw [directory_eq, expand_of_noDollar h, mentioned_of_noDollar h, String.ofList_toList]
  rfl

theorem expandHome_eq_error {p : Path} {fault : DirectoryFault}
    (h : e.expandHome p = .error fault) : fault = .homeUnknown ∨ fault = .unspeakable := by
  unfold expandHome at h
  split at h
  · split at h
    · exact .inr (Except.error.inj h).symm
    · split at h
      · exact .inl (Except.error.inj h).symm
      · split at h
        · exact .inl (Except.error.inj h).symm
        · cases h
  · cases h

/-- A directory is lost exactly if its name, once variables and a home directory are put in, is
that of a path in a working directory which the system cannot tell. -/
theorem directory_eq_lost_iff {text : String} {f : FileFault} :
    e.directory text = .error (.lost f) ↔ e.lost = some f ∧ Speakable text.toList ∧
      ∃ p, e.expandHome (.ofString (String.ofList (e.expand text.toList))) = .ok p ∧
        p.isAbsolute = false := by
  rw [directory_eq]
  by_cases hs : Speakable text.toList
  case neg =>
    rw [if_neg (mt all_isSpeakable_iff.mp hs)]
    exact ⟨nofun, fun h => absurd h.2.1 hs⟩
  case pos =>
    rw [if_pos (all_isSpeakable_iff.mpr hs)]
    cases hhome : e.expandHome (.ofString (String.ofList (e.expand text.toList))) with
    | error fault =>
      refine ⟨fun h => ?_, fun ⟨_, _, p, hp, _⟩ => nomatch hp⟩
      obtain rfl := Except.error.inj h
      rcases expandHome_eq_error hhome with hf | hf <;> cases hf
    | ok p =>
      show e.absolute p = _ ↔ _
      rw [absolute_eq_error_iff]
      constructor
      · rintro ⟨hrelative, f', hlost, hf⟩
        obtain rfl := DirectoryFault.lost.inj hf
        exact ⟨hlost, hs, p, rfl, hrelative⟩
      · rintro ⟨hlost, -, p', hp, hrelative⟩
        obtain rfl := Except.ok.inj hp
        exact ⟨hrelative, f, hlost, rfl⟩

/-- The working directory is lost, or it has the name `.`. -/
theorem directory_dot : e.directory "." = e.absolute .here :=
  directory_of_noDollar (by decide)

/-! ## A name that is read once more -/

theorem expandHome_of_isAbsolute {p : Path} (h : p.isAbsolute = true) :
    e.expandHome p = .ok p := by
  unfold expandHome
  split
  next hroot _ => simp [Path.isAbsolute, hroot] at h
  next => rfl

/-- What the name of a directory leads to once the values of variables are put in. -/
def reread (e : Environment) (root : Path) : Path :=
  .ofString (String.ofList (e.expand root.text.toList))

theorem isAbsolute_reread (h : root.isAbsolute = true) : (e.reread root).isAbsolute = true := by
  obtain ⟨rest, htext⟩ := Path.exists_text_of_isAbsolute h
  unfold reread
  rw [htext, expand_of_ne (by decide)]
  exact Path.isAbsolute_ofString_slash _

/-- Reading the name of a directory leads back to it. -/
def Settled (e : Environment) (root : Path) : Prop :=
  Speakable root.text.toList ∧ e.reread root = root

theorem directory_of_speakable (h : root.isAbsolute = true) (hs : Speakable root.text.toList) :
    e.directory root.text = .ok ⟨e.reread root, isAbsolute_reread h⟩ := by
  have hr := isAbsolute_reread (e := e) h
  have hhome : e.expandHome (.ofString (String.ofList (e.expand root.text.toList))) =
      .ok (e.reread root) := expandHome_of_isAbsolute hr
  rw [directory_eq, if_pos (all_isSpeakable_iff.mpr hs), hhome]
  exact absolute_of_isAbsolute hr

theorem directory_of_unspeakable {text : String} (h : ¬ Speakable text.toList) :
    e.directory text = .error .unspeakable := by
  rw [directory_eq, if_neg (mt all_isSpeakable_iff.mp h)]

/-- Variables that are not set are no reason to end up elsewhere. -/
theorem settled_of_unset (hs : Speakable root.text.toList)
    (h : ∀ name ∈ mentioned root.text.toList, e.vars.get? name = none) : e.Settled root := by
  refine ⟨hs, ?_⟩
  rw [reread, expand_of_unset h, String.ofList_toList]
  exact Path.ofString_text root

theorem settled_of_noDollar (h : '$' ∉ root.text.toList) : e.Settled root := by
  have hnone := mentioned_of_noDollar h
  exact settled_of_unset (by simp [Speakable, hnone]) (by simp [hnone])

end Environment

end InputStaging
