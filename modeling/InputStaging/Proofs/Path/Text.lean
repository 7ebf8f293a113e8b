import InputStaging.Path.Basic

/-!
# Reading back a spelling

The canonical spelling of a path is read back as that path. A target that is kept as a text
between two steps loses nothing by it.
-/

namespace InputStaging

namespace Path

/-- Without a slash there is one piece. -/
theorem pieces_of_noSlash {cs : List Char} (h : '/' ∉ cs) : pieces cs = [cs] := by
  induction cs with
  | nil => rfl
  | cons c cs ih =>
    rw [List.mem_cons, not_or] at h
    rw [pieces, if_neg (Ne.symm h.1), ih h.2]

/-- The first slash ends the first piece. -/
theorem pieces_append_slash {cs : List Char} (h : '/' ∉ cs) (rest : List Char) :
    pieces (cs ++ '/' :: rest) = cs :: pieces rest := by
  induction cs with
  | nil => rfl
  | cons c cs ih =>
    rw [List.mem_cons, not_or] at h
    rw [List.cons_append, pieces, if_neg (Ne.symm h.1), ih h.2]

/-- Pieces that are joined by slashes are found again. -/
theorem pieces_intercalate {parts : List (List Char)} (hne : parts ≠ [])
    (h : ∀ cs ∈ parts, '/' ∉ cs) : pieces (['/'].intercalate parts) = parts := by
  induction parts with
  | nil => exact absurd rfl hne
  | cons cs rest ih =>
    cases rest with
    | nil =>
      have hsingle : ['/'].intercalate [cs] = cs := by simp
      rw [hsingle, pieces_of_noSlash (h cs (by simp))]
    | cons cs' rest =>
      rw [List.intercalate_cons_cons, List.append_assoc, List.singleton_append,
        pieces_append_slash (h cs (by simp)), ih (by simp) fun cs hcs => h cs (by simp [hcs])]

/-- Taking a text to pieces adds no character. -/
theorem mem_of_mem_pieces {cs piece : List Char} (h : piece ∈ pieces cs) {c : Char}
    (hc : c ∈ piece) : c ∈ cs := by
  induction cs generalizing piece with
  | nil =>
    obtain rfl := List.mem_singleton.mp h
    exact hc
  | cons d rest ih =>
    rw [pieces] at h
    split at h
    · rcases List.mem_cons.mp h with rfl | h
      · cases hc
      · exact List.mem_cons_of_mem _ (ih h hc)
    · split at h
      next =>
        obtain rfl := List.mem_singleton.mp h
        obtain rfl := List.mem_singleton.mp hc
        exact List.mem_cons_self
      next first others hpieces =>
        rw [hpieces] at ih
        rcases List.mem_cons.mp h with rfl | h
        · rcases List.mem_cons.mp hc with rfl | hc
          · exact List.mem_cons_self
          · exact List.mem_cons_of_mem _ (ih List.mem_cons_self hc)
        · exact List.mem_cons_of_mem _ (ih (List.mem_cons_of_mem _ h) hc)

/-- The segments that are read hold no other characters than the text. -/
theorem mem_of_mem_ofString {s t : String} {c : Char} (ht : t ∈ (ofString s).segments)
    (hc : c ∈ t.toList) : c ∈ s.toList := by
  obtain ⟨hin, -⟩ := List.mem_filter.mp ht
  obtain ⟨piece, hpiece, rfl⟩ := List.mem_map.mp hin
  rw [String.toList_ofList] at hc
  exact mem_of_mem_pieces hpiece hc

/-- The characters of a spelling behind its root. -/
def joined (p : Path) : List Char := ['/'].intercalate (p.segments.map String.toList)

/-- What follows the root does not start with a slash, so that the root ends where it seems to. -/
theorem joined_ne_slash (p : Path) (rest : List Char) : p.joined ≠ '/' :: rest := by
  unfold joined
  have hsegs := p.isSegment
  cases hs : p.segments with
  | nil => simp
  | cons s ss =>
    rw [hs] at hsegs
    obtain ⟨hne, -, hslash⟩ := hsegs s (by simp)
    cases hc : s.toList with
    | nil => exact absurd (String.toList_inj.mp (hc.trans String.toList_empty.symm)) hne
    | cons c cs =>
      have hcs : c ≠ '/' := fun he => hslash (by simp [hc, he])
      have hhead : (['/'].intercalate ((s :: ss).map String.toList)).head? = some c := by
        cases ss with
        | nil => simp [hc]
        | cons s' ss => simp [hc, List.intercalate_cons_cons]
      intro he
      rw [he] at hhead
      exact hcs (Option.some.inj hhead).symm

/-- The segments are read back from what follows the root. -/
theorem segments_of_joined (p : Path) :
    ((pieces p.joined).map String.ofList).filter (fun s => decide (IsSegment s)) = p.segments := by
  by_cases hs : p.segments = []
  · simp [joined, hs, pieces, IsSegment]
  · have hparts : pieces p.joined = p.segments.map String.toList := by
      refine pieces_intercalate (by simpa using hs) fun cs hcs => ?_
      obtain ⟨s, hmem, rfl⟩ := List.mem_map.mp hcs
      exact (p.isSegment s hmem).2.2
    rw [hparts, List.map_map]
    have hid : p.segments.map (String.ofList ∘ String.toList) = p.segments := by simp
    rw [hid]
    exact List.filter_eq_self.mpr fun s hmem => decide_eq_true (p.isSegment s hmem)

/-- The root is read back from what stands in front of it. -/
theorem ofChars_joined (p : Path) : Root.ofChars (p.root.text.toList ++ p.joined) = p.root := by
  have hslash := p.joined_ne_slash
  cases hj : p.joined with
  | nil => cases p.root <;> rfl
  | cons c cs =>
    have hc : c ≠ '/' := fun he => hslash cs (by rw [hj, he])
    cases p.root with
    | relative => simp [Root.text, Root.ofChars, hc]
    | slash => simp [Root.text, Root.ofChars, hc]
    | doubleSlash => simp [Root.text, Root.ofChars, hc]

/-- A path is what its canonical spelling is read as. -/
theorem ofString_text (p : Path) : ofString p.text = p := by
  by_cases hp : p.root = .relative ∧ p.segments = []
  · have hhere : p = here := Path.ext hp.1 hp.2
    rw [hhere]
    rfl
  · have htext : p.text.toList = p.root.text.toList ++ p.joined := by
      unfold text
      rw [if_neg hp, String.toList_append, String.toList_intercalate]
      rfl
    apply Path.ext
    · show Root.ofChars p.text.toList = p.root
      rw [htext, ofChars_joined]
    · show ((pieces p.text.toList).map String.ofList).filter _ = p.segments
      rw [htext, ← segments_of_joined p]
      -- Before a slash of the root there is no segment.
      cases p.root with
      | relative => rfl
      | slash => rfl
      | doubleSlash => rfl

end Path

end InputStaging
