import InputStaging.FileTree
import InputStaging.Proofs.Path.Reach

/-!
# Paths in a file tree

What a path leads to. In a tree in which every node stands in a directory, a path that is followed
ends at a node, and never at a link unless it was to be left alone. That only so many links are
followed shows in nothing but the refusal of more. From this come the types that the tree tells.
-/

namespace InputStaging

namespace FileTree

variable {t : FileTree} {whole : Bool} {links : Nat} {dir p q : Path} {pending : List String}

/-- Every node stands in a directory. -/
def Rooted (t : FileTree) : Prop :=
  ∀ p n, t.node? p = some n → t.node? p.parent = some .directory

/-- A node that is not a link. -/
def Plain (t : FileTree) (p : Path) : Prop :=
  ∃ n, t.node? p = some n ∧ ∀ target, n ≠ .link target

/-- A node that is a link. -/
def Linked (t : FileTree) (p : Path) : Prop :=
  ∃ target, t.node? p = some (.link target)

theorem plain_root (t : FileTree) : t.Plain root := ⟨.directory, rfl, nofun⟩

theorem plain_of_directory (h : t.node? p = some .directory) : t.Plain p := ⟨_, h, nofun⟩

/-! ## One piece -/

/-- A piece leads to a place that is no link, or is told to lead to one. -/
def Turn.Holds (t : FileTree) : Turn → Prop
  | place p => t.Plain p
  | link at_ target => t.node? at_ = some (.link target)

theorem turn_holds (ht : t.Rooted) {s : String} {turning : Turn} (h : t.turn dir s = .ok turning) :
    turning.Holds t := by
  unfold turn at h
  split at h
  case isTrue => cases h
  case isFalse hdir =>
    have hdir := Decidable.not_not.mp hdir
    split at h
    case isTrue => exact Except.ok.inj h ▸ plain_of_directory hdir
    split at h
    case isTrue => exact Except.ok.inj h ▸ plain_of_directory (ht dir _ hdir)
    split at h
    case isTrue => cases h
    split at h
    next => cases h
    next target hnode => exact Except.ok.inj h ▸ hnode
    next n hlink hnode => exact Except.ok.inj h ▸ ⟨n, hnode, hlink⟩

/-! ## Whole paths -/

/-- A path ends at a node, and at a link only if that was not to be followed. The invariant is
that no place to go on from is a link. -/
theorem follow_stands (ht : t.Rooted) (hdir : t.Plain dir)
    (h : t.follow whole links dir pending = .ok q) : t.Plain q ∨ whole = false ∧ t.Linked q := by
  fun_induction follow t whole links dir pending with
  | case1 => exact .inl (Except.ok.inj h ▸ hdir)
  | case2 => cases h
  | case3 _ _ _ _ next hturn ih => exact ih (turn_holds ht hturn) h
  | case4 _ _ _ _ at_ target hturn hlast =>
    obtain rfl := Except.ok.inj h
    exact .inr ⟨by simpa using hlast.2, target, turn_holds ht hturn⟩
  | case5 => cases h
  | case6 dir _ _ _ target _ _ _ start ih =>
    refine ih ?_ h
    show t.Plain (if (Path.ofString target).isAbsolute then root else dir)
    split
    · exact t.plain_root
    · exact hdir

/-- How many links may be followed does not matter, as long as they are enough. -/
theorem follow_add (more : Nat) (h : t.follow whole links dir pending ≠ .error .tooManyLinks) :
    t.follow whole (links + more) dir pending = t.follow whole links dir pending := by
  fun_induction follow t whole links dir pending with
  | case1 => rw [follow]
  | case2 _ _ _ _ fault hturn => rw [follow, hturn]
  | case3 _ _ _ _ next hturn ih =>
    rw [follow, hturn]
    exact ih h
  | case4 _ _ _ _ at_ target hturn hlast => rw [follow, hturn]; exact if_pos hlast
  | case5 => exact absurd rfl h
  | case6 dir _ _ _ target hturn hgo links start ih =>
    rw [follow, hturn, Nat.succ_add]
    exact (if_neg hgo).trans (ih h)

/-- Whether the last piece is followed shows only if it leads to a link. -/
theorem follow_last (ht : t.Rooted) (links : Nat) (dir : Path) (pending : List String) :
    t.follow false links dir pending = t.follow true links dir pending ∨
      ∃ q, t.follow false links dir pending = .ok q ∧ t.Linked q := by
  fun_induction follow t true links dir pending with
  | case1 => exact .inl (by rw [follow])
  | case2 _ _ _ _ fault hturn => exact .inl (by rw [follow, hturn])
  | case3 _ _ _ _ next hturn ih =>
    rw [follow, hturn]
    exact ih
  | case4 _ _ _ _ _ _ _ hlast => exact absurd hlast.2 (by decide)
  | case5 _ _ rest at_ target hturn =>
    rw [follow, hturn]
    by_cases hrest : rest = []
    · exact .inr ⟨at_, if_pos ⟨hrest, rfl⟩, target, turn_holds ht hturn⟩
    · exact .inl (if_neg fun h => hrest h.1)
  | case6 dir _ rest at_ target hturn _ links start ih =>
    rw [follow, hturn]
    by_cases hrest : rest = []
    · exact .inr ⟨at_, if_pos ⟨hrest, rfl⟩, target, turn_holds ht hturn⟩
    · simp only [if_neg fun h : rest = [] ∧ _ => hrest h.1]
      exact ih

theorem resolve_stands (ht : t.Rooted) (h : t.resolve whole root p = .ok q) :
    t.Plain q ∨ whole = false ∧ t.Linked q := by
  unfold resolve at h
  split at h
  case h_1 => cases h
  split at h
  case isTrue => cases h
  exact follow_stands ht (by rw [ite_self]; exact t.plain_root) h

theorem resolve_last (ht : t.Rooted) (p : Path) : t.resolve false root p = t.resolve true root p ∨
    ∃ q, t.resolve false root p = .ok q ∧ t.Linked q := by
  unfold resolve
  split
  case h_1 => exact .inl rfl
  split
  case isTrue => exact .inl rfl
  exact follow_last ht ..

/-! ## Types -/

/-- What there is to tell of a path: the type of what it leads to; that it leads to a link which
leads nowhere; that it leads nowhere itself; or why it cannot be followed. -/
inductive Told (t : FileTree) (p : Path) : Except FileFault FileType → Prop
  | directory {q : Path} : t.resolve true root p = .ok q → t.node? q = some .directory →
      Told t p (.ok .directory)
  | file {q : Path} {text : String} : t.resolve true root p = .ok q →
      t.node? q = some (.file text) → Told t p (.ok .file)
  | dangling {q : Path} : t.resolve true root p = .error .missing →
      t.resolve false root p = .ok q → t.Linked q → Told t p (.ok .symlink)
  | absent : t.resolve true root p = .error .missing →
      t.resolve false root p = .error .missing → Told t p (.ok .absent)
  | refused {fault : FileFault} : t.resolve true root p = .error fault → fault ≠ .missing →
      Told t p (.error fault)

theorem typeOf_told (ht : t.Rooted) (p : Path) : t.Told p (t.typeOf p) := by
  have hlast := resolve_last ht p
  unfold typeOf
  cases hwhole : t.resolve true root p with
  | ok q =>
    obtain ⟨n, hnode, hplain⟩ := (resolve_stands ht hwhole).resolve_right (by simp)
    cases n with
    | directory =>
      simp only [hnode, if_true]
      exact .directory hwhole hnode
    | file text =>
      simp only [hnode, Option.some.injEq, reduceCtorEq, if_false]
      exact .file hwhole hnode
    | link target => exact absurd rfl (hplain target)
  | error fault =>
    rw [hwhole] at hlast
    cases fault with
    | missing =>
      rcases hlast with hsame | ⟨q, hq, hlinked⟩
      · simp only [hsame]
        exact .absent hwhole hsame
      · simp only [hq]
        exact .dangling hwhole hq hlinked
    | _ => exact .refused hwhole nofun

theorem textAt_eq_ok_iff {text : String} :
    t.textAt p = .ok text ↔ t.node? p = some (.file text) := by
  unfold textAt
  constructor
  · intro h
    split at h
    case h_1 text' hnode => exact Except.ok.inj h ▸ hnode
    case h_2 => cases h
  · intro hnode
    rw [hnode]

theorem read_eq_ok_iff {cwd : Path} {text : String} : t.read cwd p = .ok text ↔
    ∃ q, t.resolve true cwd p = .ok q ∧ t.node? q = some (.file text) := by
  unfold read
  cases t.resolve true cwd p with
  | error fault => exact ⟨nofun, fun ⟨_, h, _⟩ => nomatch h⟩
  | ok q =>
    refine textAt_eq_ok_iff.trans ⟨fun hnode => ⟨q, rfl, hnode⟩, ?_⟩
    rintro ⟨q', hq, hnode⟩
    exact Except.ok.inj hq ▸ hnode

/-- What is told to be a file is what can be read. -/
theorem typeOf_eq_file_iff (ht : t.Rooted) :
    t.typeOf p = .ok .file ↔ ∃ text, t.read root p = .ok text := by
  constructor
  · intro h
    cases h ▸ typeOf_told ht p with
    | file hq hnode => exact ⟨_, read_eq_ok_iff.mpr ⟨_, hq, hnode⟩⟩
  · rintro ⟨text, h⟩
    obtain ⟨q, hq, hnode⟩ := read_eq_ok_iff.mp h
    simp [typeOf, hq, hnode]

/-! ## Trees that grow -/

theorem node?_of_segments (h : p.segments = []) : t.node? p = some .directory := if_pos h

theorem rooted_empty : ({} : FileTree).Rooted := by
  intro p n h
  by_cases hp : p.segments = []
  · exact node?_of_segments (by simp [Path.parent, hp])
  · rw [node?, if_neg hp] at h
    cases h

theorem foldl_child (ss : List String) (hss : ∀ s ∈ ss, IsSegment s) (d : Path) :
    (ss.foldl (fun (d : Path) s => d / Path.ofString s) d).root = d.root ∧
    (ss.foldl (fun (d : Path) s => d / Path.ofString s) d).segments = d.segments ++ ss := by
  induction ss generalizing d with
  | nil => simp
  | cons s rest ih =>
    obtain ⟨hrel, hsegments⟩ := Path.ofString_of_isSegment (hss s List.mem_cons_self)
    obtain ⟨hroot, hrest⟩ :=
      ih (fun s h => hss s (List.mem_cons_of_mem _ h)) (d / Path.ofString s)
    rw [List.foldl_cons]
    refine ⟨hroot.trans (Path.root_div hrel), hrest.trans ?_⟩
    rw [Path.segments_div hrel, hsegments, List.append_assoc, List.singleton_append]

theorem mem_above_iff {d : Path} : d ∈ above p ↔
    d.root = .slash ∧ ∃ i < p.segments.length, d.segments = p.segments.take i := by
  have hdir (i : Nat) :=
    foldl_child (p.segments.take i) (fun s h => p.isSegment s (List.mem_of_mem_take h)) root
  simp only [above, List.mem_map, List.mem_range]
  constructor
  · rintro ⟨i, hi, rfl⟩
    exact ⟨(hdir i).1, i, hi, (hdir i).2⟩
  · rintro ⟨hroot, i, hi, hsegments⟩
    exact ⟨i, hi, Path.ext ((hdir i).1.trans hroot.symm) ((hdir i).2.trans hsegments.symm)⟩

theorem ne_of_mem_above {d : Path} (h : d ∈ above p) : d ≠ p := by
  rintro rfl
  obtain ⟨-, i, hi, hsegments⟩ := mem_above_iff.mp h
  have hlength := congrArg List.length hsegments
  rw [List.length_take] at hlength
  omega

theorem get?_directories (ds : List Path) (ns : Table Path FileNode) {k : Path}
    (hk : k.segments ≠ []) :
    (ds.foldl (fun (ns : Table Path FileNode) d =>
      if d.segments = [] then ns else ns.insertNew d .directory) ns).get? k =
      (ns.get? k).or (if k ∈ ds then some .directory else none) := by
  induction ds generalizing ns with
  | nil => simp
  | cons d rest ih =>
    rw [List.foldl_cons, ih]
    by_cases hd : d.segments = []
    · have hne : k ≠ d := fun h => hk (h ▸ hd)
      simp [hd, hne]
    · rw [if_neg hd, Table.get?_insertNew]
      by_cases hkd : k = d
      · subst hkd
        cases ns.get? k <;> simp
      · simp [hkd]

/-- Adding a node makes the directories above it, and changes nothing that is there. -/
theorem node?_add (t : FileTree) (p : Path) (n : FileNode) (k : Path) : (t.add p n).node? k =
    (t.node? k).or (if k = p then some n else if k ∈ above p then some .directory else none) := by
  by_cases hk : k.segments = []
  · rw [node?_of_segments hk, node?_of_segments hk, Option.some_or]
  rw [node?, if_neg hk, node?, if_neg hk, add, Table.get?_insertNew]
  by_cases hkp : k = p
  · subst hkp
    rw [get?_directories _ _ hk, if_neg fun h => ne_of_mem_above h rfl, Option.or_none,
      if_pos rfl, if_pos rfl]
    cases t.nodes.get? k <;> rfl
  · rw [if_neg hkp, if_neg hkp, get?_directories _ _ hk]

/-- A tree stays rooted if what is added is not put beneath a file or a link. -/
theorem Rooted.add (ht : t.Rooted) (hp : p.root = .slash) (n : FileNode)
    (habove : ∀ d ∈ above p, ∀ m, t.node? d = some m → m = .directory) : (t.add p n).Rooted := by
  intro k m hk
  rw [node?_add] at hk ⊢
  cases hnode : t.node? k with
  | some m' => rw [ht k m' hnode, Option.some_or]
  | none =>
    rw [hnode, Option.none_or] at hk
    have hne : k.segments ≠ [] := fun h => nomatch hnode.symm.trans (node?_of_segments h)
    -- What was added stands at a piece of the way, and so one piece up the way goes on.
    obtain ⟨hroot, i, hi, hsegments⟩ : k.root = .slash ∧
        ∃ i ≤ p.segments.length, k.segments = p.segments.take i := by
      split at hk
      case isTrue hkp =>
        subst hkp
        exact ⟨hp, _, Nat.le_refl _, List.take_length.symm⟩
      split at hk
      case isTrue hmem =>
        obtain ⟨hroot, i, hi, hsegments⟩ := mem_above_iff.mp hmem
        exact ⟨hroot, i, Nat.le_of_lt hi, hsegments⟩
      case isFalse => cases hk
    have hparent : k.parent ∈ above p := by
      refine mem_above_iff.mpr ⟨hroot, i - 1, ?_, ?_⟩
      · have : i ≠ 0 := fun h => hne (by rw [hsegments, h, List.take_zero])
        omega
      · show k.segments.dropLast = _
        rw [hsegments, List.dropLast_eq_take, List.length_take, Nat.min_eq_left hi, List.take_take,
          Nat.min_eq_left (Nat.sub_le i 1)]
    cases hd : t.node? k.parent with
    | some m' => rw [habove _ hparent m' hd, Option.some_or]
    | none => rw [Option.none_or, if_neg (ne_of_mem_above hparent), if_pos hparent]

end FileTree

end InputStaging
