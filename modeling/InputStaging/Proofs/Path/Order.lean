import InputStaging.Ledger

/-!
# The order of paths

Paths are compared part by part, and parts by their code points. So the order is that of
lists of lists of numbers, of which everything else follows: it is linear, and the entries
of a table come out strictly increasing.
-/

namespace InputStaging

namespace Text

theorem codePoint_injective {c d : Char} (h : codePoint c = codePoint d) : c = d := by
  have valid : ∀ c : Char, isHalfCode c.toNat = false := fun c => by
    have hc := c.valid
    simp only [isHalfCode, UInt32.isValidChar, Nat.isValidChar, Bool.and_eq_false_iff,
      decide_eq_false_iff_not] at *
    rcases hc with hc | hc
    · exact .inl (Nat.not_le.mpr hc)
    · exact .inr (Nat.not_le.mpr hc.1)
  apply Char.toNat_inj.mp
  unfold codePoint at h
  have hhalf : ∀ c, isHalf c = true →
      standInShift ≤ c.toNat ∧ isHalfCode (c.toNat - standInShift) = true := fun c hc => by
    simpa [isHalf] using hc
  split at h <;> rename_i hc <;> split at h <;> rename_i hd
  · have := (hhalf c hc).1
    have := (hhalf d hd).1
    omega
  · -- A stand-in is read as a half, and no character has the number of one.
    have := (hhalf c hc).2
    rw [h, valid d] at this
    cases this
  · have := (hhalf d hd).2
    rw [← h, valid c] at this
    cases this
  · exact h

/-- The code points of a text, one for each character it holds. -/
def codes (s : String) : List Nat := s.toList.map codePoint

theorem codes_injective {s t : String} (h : codes s = codes t) : s = t :=
  String.toList_inj.mp ((List.map_inj_right fun _ _ => codePoint_injective).mp h)

end Text

namespace Path

section
variable {α β : Type} [DecidableEq α] [LT β] [Std.Asymm (· < · : β → β → Prop)]
  [Std.Trichotomous (· < · : β → β → Prop)]

/-- Where single items are compared by their images, so are lists. -/
theorem lexLe_iff {lt : α → α → Bool} {f : α → β} (hlt : ∀ a b, lt a b = true ↔ f a < f b)
    (hf : ∀ a b, f a = f b → a = b) (as bs : List α) :
    lexLe lt as bs = true ↔ ¬ bs.map f < as.map f := by
  induction as generalizing bs with
  | nil => simp [lexLe]
  | cons a as ih =>
    cases bs with
    | nil => simp [lexLe]
    | cons b bs =>
      have hab : f a = f b ↔ a = b := ⟨hf a b, congrArg f⟩
      rw [List.map_cons, List.map_cons, List.not_lt, List.cons_le_cons_iff, lexLe,
        Bool.or_eq_true, hlt, Bool.and_eq_true, decide_eq_true_iff, ih, hab, List.not_lt]

end

theorem textLt_iff (s t : String) : textLt s t = true ↔ Text.codes s < Text.codes t := by
  have hlt : ∀ c d, decide (Text.codePoint c < Text.codePoint d) = true ↔
      Text.codePoint c < Text.codePoint d := fun c d => decide_eq_true_iff
  have hle := lexLe_iff hlt (fun _ _ => Text.codePoint_injective) s.toList t.toList
  rw [textLt, Bool.and_eq_true, decide_eq_true_iff, hle]
  constructor
  · rintro ⟨hne, hge⟩
    apply Classical.byContradiction
    intro h
    exact hne (Text.codes_injective (Std.Trichotomous.trichotomous _ _ h hge))
  · intro h
    refine ⟨?_, List.lt_asymm h⟩
    rintro rfl
    exact List.lt_irrefl _ h

/-- What paths are ordered by. -/
def rank (p : Path) : List (List Nat) := p.parts.map Text.codes

theorem le_iff (p q : Path) : p.le q = true ↔ ¬ q.rank < p.rank :=
  lexLe_iff textLt_iff (fun _ _ => Text.codes_injective) p.parts q.parts

theorem le_trans {p q r : Path} (hpq : p.le q = true) (hqr : q.le r = true) :
    p.le r = true := by
  rw [le_iff] at *
  intro hrp
  by_cases hlt : p.rank < q.rank
  · exact hqr (List.lt_trans hrp hlt)
  · exact hqr (Std.Trichotomous.trichotomous _ _ hlt hpq ▸ hrp)

theorem le_total (p q : Path) : (p.le q || q.le p) = true := by
  rw [Bool.or_eq_true, le_iff, le_iff]
  by_cases h : q.rank < p.rank
  · exact .inr (List.lt_asymm h)
  · exact .inl h

theorem not_isSegment_text {r : Root} (h : r ≠ .relative) : ¬ IsSegment r.text := by
  cases r with
  | relative => exact absurd rfl h
  | slash => decide
  | doubleSlash => decide

theorem parts_of_root {p : Path} (h : p.root ≠ .relative) :
    p.parts = p.root.text :: p.segments := by
  unfold parts
  split
  · contradiction
  · rfl

theorem parts_of_relative {p : Path} (h : p.root = .relative) : p.parts = p.segments := by
  rw [parts, h]

/-- No segment is spelt like a root, so that a path is known by its parts. -/
theorem parts_injective {p q : Path} (h : p.parts = q.parts) : p = q := by
  have relative_of : ∀ {p q : Path}, p.parts = q.parts → p.root = .relative →
      q.root = .relative := by
    intro p q h hp
    apply Decidable.byContradiction
    intro hq
    rw [parts_of_relative hp, parts_of_root hq] at h
    exact not_isSegment_text hq (p.isSegment _ (by simp [h]))
  by_cases hp : p.root = .relative
  · have hq := relative_of h hp
    rw [parts_of_relative hp, parts_of_relative hq] at h
    exact Path.ext (hp.trans hq.symm) h
  · have hq : q.root ≠ .relative := fun hq => hp (relative_of h.symm hq)
    rw [parts_of_root hp, parts_of_root hq, List.cons.injEq] at h
    refine Path.ext ?_ h.2
    have ht := h.1
    cases hpr : p.root <;> cases hqr : q.root <;> simp_all [Root.text]

theorem rank_injective {p q : Path} (h : p.rank = q.rank) : p = q :=
  parts_injective ((List.map_inj_right fun _ _ => Text.codes_injective).mp h)

theorem rank_of_relative {p : Path} (h : p.isAbsolute = false) :
    p.rank = p.segments.map Text.codes := by
  rw [rank, parts_of_relative (by simpa [isAbsolute] using h)]

end Path

namespace Table

variable {α : Type}

theorem sorted_of_pairwise {t : Table Path α}
    (h : t.entries.Pairwise fun a b => a.1.le b.1 = true) : t.sorted = t.entries :=
  List.mergeSort_of_pairwise h

/-- The entries come out in strictly increasing order. -/
theorem sorted_pairwise (t : Table Path α) : t.sorted.Pairwise fun a b => a.1.rank < b.1.rank := by
  have hle : t.sorted.Pairwise fun a b => a.1.le b.1 = true := by
    apply List.pairwise_mergeSort
    · intro a b c hab hbc
      exact Path.le_trans hab hbc
    · intro a b
      exact Path.le_total a.1 b.1
  have hnodup : (t.sorted.map Prod.fst).Nodup :=
    ((List.mergeSort_perm _ _).map _).nodup_iff.mpr t.nodup
  have hne : t.sorted.Pairwise fun a b => a.1 ≠ b.1 := List.pairwise_map.mp hnodup
  apply (hle.and hne).imp
  intro a b hab
  apply Classical.byContradiction
  intro hlt
  exact hab.2 (Path.rank_injective
    (Std.Trichotomous.trichotomous _ _ hlt ((Path.le_iff _ _).mp hab.1)))

/-- There is one order that increases, whatever order the table was filled in. -/
theorem sorted_of_perm {t t' : Table Path α} (h : t'.entries.Perm t.entries) :
    t'.sorted = t.sorted := by
  have hperm : t'.sorted.Perm t.sorted :=
    (List.mergeSort_perm _ _).trans (h.trans (List.mergeSort_perm _ _).symm)
  have hasymm : ∀ a b : Path × α, a ∈ t'.sorted → b ∈ t.sorted →
      a.1.rank < b.1.rank → b.1.rank < a.1.rank → a = b :=
    fun a b _ _ hab hba => absurd hba (List.lt_asymm hab)
  exact hperm.eq_of_pairwise hasymm t'.sorted_pairwise t.sorted_pairwise

end Table

end InputStaging
