import InputStaging.Setup.Settings

/-!
# Settings that are read again

Settings can be written down field by field, each in the form of its own type. What is read of
that is the settings again, but for the execution root: its name is looked up anew. Of a schema
no more is asked for this than that it takes such forms for what they are.
-/

namespace InputStaging

namespace Document

variable {es : List (Document × Document)} {s : String}

/-! ## Entries by name -/

theorem valueOf?_append (es es' : List (Document × Document)) (name : String) :
    valueOf? (es ++ es') name = (valueOf? es name).or (valueOf? es' name) := by
  fun_induction valueOf? es name with
  | case1 => rfl
  | case2 v rest => simp [valueOf?]
  | case3 s v rest h ih => simp [valueOf?, h, ih]
  | case4 e rest h ih =>
    have hskip (rest : List (Document × Document)) :
        valueOf? (e :: rest) name = valueOf? rest name := by
      obtain ⟨k, v⟩ := e
      cases k with
      | text s => exact absurd rfl (h s v)
      | _ => rfl
    rw [List.cons_append, hskip, ih]

theorem sameKey_text_iff {k : Document} : sameKey k (.text s) = true ↔ k = .text s := by
  cases k <;> simp [sameKey, whole?]

theorem valueOf?_putEntry (s : String) (v : Document) (es : List (Document × Document))
    (name : String) :
    valueOf? (putEntry sameKey (.text s) v es) name =
      if s = name then some v else valueOf? es name := by
  induction es with
  | nil => rfl
  | cons e rest ih =>
    obtain ⟨k, v'⟩ := e
    unfold putEntry
    split
    next hk =>
      obtain rfl := sameKey_text_iff.mp hk
      by_cases h : s = name <;> simp [valueOf?, h]
    next hk =>
      have hne : k ≠ .text s := mt sameKey_text_iff.mpr hk
      cases k with
      | text t =>
        have hts : t ≠ s := fun he => hne (congrArg _ he)
        by_cases h : s = name
        · subst h
          simp [valueOf?, hts, ih]
        · simp [valueOf?, ih, h]
      | _ => exact ih

/-- Where all names are texts, the last value under a name is the one that stands. -/
theorem valueOf?_distinct (hnames : ∀ e ∈ es, e.1.isText = true) (name : String) :
    valueOf? (distinct sameKey es) name = valueOf? es.reverse name := by
  suffices hfold : ∀ acc, valueOf? (es.foldl (fun acc e => putEntry sameKey e.1 e.2 acc) acc) name =
      (valueOf? es.reverse name).or (valueOf? acc name) by
    rw [distinct, hfold []]
    exact Option.or_none
  induction es with
  | nil => exact fun acc => rfl
  | cons e rest ih =>
    intro acc
    obtain ⟨k, v⟩ := e
    obtain ⟨hk, hrest⟩ := List.forall_mem_cons.mp hnames
    cases k with
    | text s =>
      rw [List.foldl_cons, ih hrest, valueOf?_putEntry, List.reverse_cons, valueOf?_append,
        Option.or_assoc]
      by_cases h : s = name <;> simp [valueOf?, h]
    | _ => cases hk

end Document

namespace Settings

open Document

variable {e : Environment} {fe : FrontEnd}

/-! ## Fields of their own types -/

/-- The entries give the settings field by field, each in the form of its own type. -/
structure Written.Shown (w : Written) (es : List (Document × Document)) : Prop where
  execRoot : valueOf? es "exec_root" = some (.text w.execRoot)
  strict : valueOf? es "strict" = some (.bool w.strict)
  policy : valueOf? es "relative_symlink_policy" = some (.text w.policy.label)
  conflictMode : valueOf? es "conflict_mode" = some (.text w.conflictMode.label)
  maxConcurrent : valueOf? es "max_concurrent_mappings" =
    some (w.maxConcurrent.elim .null fun n => .int n)

/-- Fields of their own types are taken for what they are. Of the execution root it is the reader
that says what to make of its name. -/
def TakesShown (fe : FrontEnd) : Prop :=
  ∀ (read : Reader String) (es : List (Document × Document)) (w : Written), w.Shown es →
    fe.settings read es =
      ((read (.text w.execRoot)).under (.field "exec_root")).map fun text =>
        { w with execRoot := text }

theorem readName_policies {policy : EscapePolicy} (h : policy ∈ EscapePolicy.known) :
    readName Written.policies .member (.text policy.label) = .ok ⟨policy, h⟩ := by
  cases policy with
  | error => rfl
  | resolve => rfl
  | ignore => rfl
  | other label => simp [EscapePolicy.known] at h

theorem readName_modes (mode : ConflictMode) :
    readName Written.modes .literal (.text mode.label) = .ok mode := by
  cases mode <;> rfl

theorem readPositive_of_le {n : Nat} (h : 1 ≤ n) : readPositive (.int n) = .ok ⟨n, h⟩ := by
  have hpos : (1 : Int) ≤ n := by omega
  show (if h : (1 : Int) ≤ n then _ else _) = _
  rw [dif_pos hpos]
  rfl

/-- The fields that have been read, with a limit that lets something through. -/
theorem orNull_readPositive {limit : Option Nat} (h : ∀ n ∈ limit, 1 ≤ n) :
    (orNull readPositive (limit.elim .null fun n => .int n)).map (Option.map Subtype.val) =
      .ok limit := by
  cases limit with
  | none => rfl
  | some n =>
    show ((readPositive (.int n)).map some).map (Option.map Subtype.val) = _
    rw [readPositive_of_le (h n rfl)]
    rfl

/-- The schema of this library reads what it is shown. -/
theorem takesShown_own (order : SetOrder) : TakesShown (.own order) := by
  intro read es w hw
  show Written.readFields read es = _
  unfold Written.readFields readField
  rw [hw.execRoot, hw.strict, hw.policy, hw.conflictMode, hw.maxConcurrent]
  simp only [Option.elim_some, readName_policies w.policy_known, readName_modes]
  have hlimit := orNull_readPositive w.limit_pos
  cases hread : orNull readPositive (w.maxConcurrent.elim .null fun n => .int n) with
  | error vs => rw [hread] at hlimit; cases hlimit
  | ok limit =>
    rw [hread] at hlimit
    have hsame : limit.map Subtype.val = w.maxConcurrent := Except.ok.inj hlimit
    cases read (.text w.execRoot) with
    | error vs => rfl
    | ok text =>
      show Except.ok _ = Except.ok _
      congr 1
      simp only [hsame]

theorem brokenOff?_of_shown {w : Written} {es : List (Document × Document)} (hw : w.Shown es) :
    brokenOff? e es = match e.directory w.execRoot with
      | .error fault => breakage? fault
      | .ok _ => none := by
  unfold brokenOff? rootDocument
  rw [hw.execRoot]
  rfl

/-- Settings that are shown come through as they are, once their execution root is looked up. -/
theorem judge_of_shown (hfe : TakesShown fe) {w : Written} {es : List (Document × Document)}
    (hw : w.Shown es) (invalid : List Violation → SetupFailure) :
    judge e invalid es fe = w.settings e invalid := by
  unfold judge
  rw [brokenOff?_of_shown hw, hfe _ es w hw]
  cases hdir : e.directory w.execRoot with
  | ok root =>
    have hread : readDirectory e (.text w.execRoot) = .ok w.execRoot := by
      simp only [readDirectory, hdir]
    rw [hread]
    rfl
  | error fault =>
    have hsettings : w.settings e invalid = .error (rootFailure invalid fault) := by
      unfold Written.settings
      rw [hdir]
      rfl
    rw [hsettings]
    cases fault with
    | homeUnknown => rfl
    | lost f => rfl
    | unspeakable =>
      have hread : readDirectory e (.text w.execRoot) = .refuse .value := by
        simp only [readDirectory, hdir]
      rw [hread]
      rfl

end Settings

end InputStaging
