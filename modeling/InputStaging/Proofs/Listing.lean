import InputStaging.Listing
import InputStaging.Proofs.CallScript
import InputStaging.Proofs.Containment
import InputStaging.Proofs.Path.Order
import InputStaging.Proofs.Path.Text

/-!
# Reading listings back

In the text form a space ends the destination and a line feed ends the line, and nothing marks
those that stand in a path. Where two listings are the same text although they are not of the same
paths, a path of one runs over a separator of the other. That takes a space or a line feed in it,
and another one further on to take the separator's part.
-/

namespace InputStaging

namespace Listing

/-! ## Separators -/

variable {c c' : Char} {xs ys r r' : List Char}

/-- Texts that go on behind a separator are the same, or one runs over the separator. -/
theorem append_separator_cases (h : xs ++ c :: r = ys ++ c :: r') :
    (xs = ys ∧ r = r') ∨ (∃ beyond, xs = ys ++ c :: beyond ∧ r' = beyond ++ c :: r) ∨
      ∃ beyond, ys = xs ++ c :: beyond ∧ r = beyond ++ c :: r' := by
  rcases List.append_eq_append_iff.mp h with ⟨beyond, hys, hr⟩ | ⟨beyond, hxs, hr⟩
  · cases beyond with
    | nil => exact .inl ⟨by simpa using hys.symm, (List.cons.inj hr).2⟩
    | cons a beyond =>
      obtain ⟨rfl, hrest⟩ := List.cons.inj hr
      exact .inr (.inr ⟨beyond, hys, hrest⟩)
  · cases beyond with
    | nil => exact .inl ⟨by simpa using hxs, (List.cons.inj hr).2.symm⟩
    | cons a beyond =>
      obtain ⟨rfl, hrest⟩ := List.cons.inj hr
      exact .inr (.inl ⟨beyond, hxs, hrest⟩)

/-- A text does not come to one separator first and to the other one first. -/
theorem append_separator_ne (hne : c ≠ c') (hx : c' ∉ xs) (hy : c ∉ ys) :
    xs ++ c :: r ≠ ys ++ c' :: r' := by
  intro h
  rcases List.append_eq_append_iff.mp h with ⟨beyond, rfl, hr⟩ | ⟨beyond, rfl, hr⟩
  · cases beyond with
    | nil => exact hne (List.cons.inj hr).1
    | cons a beyond =>
      obtain ⟨rfl, -⟩ := List.cons.inj hr
      simp at hy
  · cases beyond with
    | nil => exact hne (List.cons.inj hr).1.symm
    | cons a beyond =>
      obtain ⟨rfl, -⟩ := List.cons.inj hr
      simp at hx

/-! ## Lines -/

/-- A destination and a source, as they are spelt. -/
abbrev Entry := List Char × List Char

variable {p q : Entry} {ps qs : List Entry}

def lines (ps : List Entry) : List Char := ps.flatMap fun p => p.1 ++ ' ' :: (p.2 ++ ['\n'])

theorem lines_cons (p : Entry) (ps : List Entry) :
    lines (p :: ps) = p.1 ++ ' ' :: (p.2 ++ '\n' :: lines ps) := by
  simp [lines]

/-- No path of `ps` can run over a separator of `qs`. -/
structure NoOverrun (ps qs : List Entry) : Prop where
  destinations : (∃ p ∈ ps, ' ' ∈ p.1) → (∀ q ∈ qs, ' ' ∉ q.2) ∧ ∀ p ∈ ps, '\n' ∉ p.1
  sources : (∃ p ∈ ps, '\n' ∈ p.2) → (∀ p ∈ ps, ' ' ∉ p.2) ∧ ∀ q ∈ qs, '\n' ∉ q.1

theorem NoOverrun.tail (h : NoOverrun (p :: ps) (q :: qs)) : NoOverrun ps qs := by
  constructor
  · rintro ⟨p', hp', hspace⟩
    obtain ⟨hsources, hdestinations⟩ := h.destinations ⟨p', List.mem_cons_of_mem _ hp', hspace⟩
    exact ⟨fun q' hq' => hsources q' (List.mem_cons_of_mem _ hq'),
      fun p' hp' => hdestinations p' (List.mem_cons_of_mem _ hp')⟩
  · rintro ⟨p', hp', hfeed⟩
    obtain ⟨hsources, hdestinations⟩ := h.sources ⟨p', List.mem_cons_of_mem _ hp', hfeed⟩
    exact ⟨fun p' hp' => hsources p' (List.mem_cons_of_mem _ hp'),
      fun q' hq' => hdestinations q' (List.mem_cons_of_mem _ hq')⟩

/-- A destination that runs over the space behind another one would have to come to a second
space, which is either behind the line feed or in the other's source. -/
theorem NoOverrun.destination_ne (h : NoOverrun (p :: ps) (q :: qs)) {beyond : List Char}
    (hrest : q.2 ++ '\n' :: r' = beyond ++ ' ' :: r) : p.1 ≠ q.1 ++ ' ' :: beyond := by
  intro hover
  obtain ⟨hsources, hdestinations⟩ :=
    h.destinations ⟨p, List.mem_cons_self, by rw [hover]; simp⟩
  have hspace : ' ' ∉ q.2 := hsources q List.mem_cons_self
  have hfeed : '\n' ∉ beyond := fun hmem =>
    hdestinations p List.mem_cons_self (by rw [hover]; simp [hmem])
  exact append_separator_ne (by decide) hspace hfeed hrest

/-- A source that runs over the end of another one's line would have to take in a space, or the
next destination a line feed. -/
theorem NoOverrun.source_ne (h : NoOverrun (p :: ps) (q :: qs)) {beyond : List Char}
    (hrest : lines qs = beyond ++ '\n' :: r) : p.2 ≠ q.2 ++ '\n' :: beyond := by
  intro hover
  obtain ⟨hsources, hdestinations⟩ := h.sources ⟨p, List.mem_cons_self, by rw [hover]; simp⟩
  have hspace : ' ' ∉ beyond := fun hmem =>
    hsources p List.mem_cons_self (by rw [hover]; simp [hmem])
  cases qs with
  | nil => simp [lines] at hrest
  | cons q' qs =>
    have hfeed : '\n' ∉ q'.1 := hdestinations q' (by simp)
    rw [lines_cons] at hrest
    exact append_separator_ne (by decide) hfeed hspace hrest

theorem lines_injective (h : NoOverrun ps qs) (h' : NoOverrun qs ps) (heq : lines ps = lines qs) :
    ps = qs := by
  induction ps generalizing qs with
  | nil =>
    cases qs with
    | nil => rfl
    | cons q qs => simp [lines] at heq
  | cons p ps ih =>
    cases qs with
    | nil => simp [lines] at heq
    | cons q qs =>
      rw [lines_cons, lines_cons] at heq
      -- The destinations end at the same space, and the sources at the same line feed.
      rcases append_separator_cases heq with ⟨hdest, hrest⟩ | ⟨beyond, hover, hrest⟩ |
        ⟨beyond, hover, hrest⟩
      · rcases append_separator_cases hrest with ⟨hsource, hlines⟩ | ⟨beyond, hover, hlines⟩ |
          ⟨beyond, hover, hlines⟩
        · rw [Prod.ext hdest hsource, ih h.tail h'.tail hlines]
        · exact absurd hover (h.source_ne hlines)
        · exact absurd hover (h'.source_ne hlines)
      · exact absurd hover (h.destination_ne hrest)
      · exact absurd hover (h'.destination_ne hrest)

/-! ## Mappings -/

variable {t t' : Table Path Input}

/-- What a listing says about where the content of an input comes from. -/
def sourceText (v : Input) : String := v.source?.getD ""

/-- The paths of a mapping as they are spelt, in the order of the destinations. -/
def spelt (t : Table Path Input) : List Entry :=
  t.sorted.map fun e => (e.1.text.toList, (sourceText e.2).toList)

theorem toList_text (t : Table Path Input) : (text t).toList = lines (spelt t) := by
  unfold text lines spelt
  rw [String.toList_join, List.flatMap_map, List.flatMap_map]
  refine congrArg (t.sorted.flatMap ·) (funext fun e => ?_)
  simp [line, sourceText]

theorem mem_spelt_iff {d : Path} {s : String} : (d.text.toList, s.toList) ∈ spelt t ↔
    (t.get? d).map sourceText = some s := by
  rw [spelt, List.mem_map, Option.map_eq_some_iff]
  constructor
  · rintro ⟨⟨d', v⟩, hmem, he⟩
    obtain ⟨hd, hs⟩ := Prod.mk.inj he
    have hsame : d' = d := by
      rw [← Path.ofString_text d', String.toList_inj.mp hd, Path.ofString_text]
    subst hsame
    exact ⟨v, Table.mem_sorted_iff.mp hmem, String.toList_inj.mp hs⟩
  · rintro ⟨v, hv, rfl⟩
    exact ⟨(d, v), Table.mem_sorted_iff.mpr hv, rfl⟩

/-- Mappings with one listing have the same destinations, and the same source at each of them, if
no path of either runs over a separator of the other. -/
theorem text_injective (h : NoOverrun (spelt t) (spelt t')) (h' : NoOverrun (spelt t') (spelt t))
    (heq : text t = text t') (d : Path) :
    (t.get? d).map sourceText = (t'.get? d).map sourceText := by
  have hlines : lines (spelt t) = lines (spelt t') := by
    rw [← toList_text, ← toList_text, heq]
  have hsame := lines_injective h h' hlines
  refine Option.ext fun s => ?_
  rw [← mem_spelt_iff, ← mem_spelt_iff, hsame]

/-- A file and a link at one place, and with one source. -/
def asFile : Table Path Input :=
  .ofList [(.ofString "a b", .artifact { execPath := .ofString "/c" })]

def asLink : Table Path Input := .ofList [(.ofString "a b", .location (.ofString "/c"))]

/-- The place has a space in it, which makes no difference as no source has. -/
theorem text_injective_of_spaced :
    text asFile = text asLink ∧ NoOverrun (spelt asFile) (spelt asLink) ∧
      ∀ d, (asFile.get? d).map sourceText = (asLink.get? d).map sourceText := by
  have hfile : spelt asFile = [("a b".toList, "/c".toList)] := by decide +kernel
  have hlink : spelt asLink = [("a b".toList, "/c".toList)] := by decide +kernel
  have htext : text asFile = text asLink := by decide +kernel
  have hover : NoOverrun [("a b".toList, "/c".toList)] [("a b".toList, "/c".toList)] :=
    ⟨by decide, by decide⟩
  have hforth : NoOverrun (spelt asFile) (spelt asLink) := hfile ▸ hlink ▸ hover
  have hback : NoOverrun (spelt asLink) (spelt asFile) := hfile ▸ hlink ▸ hover
  exact ⟨htext, hforth, text_injective hforth hback htext⟩

/-! ## Listings that cannot be told apart -/

/-- Files at places below one root. -/
def bundle (files : List (String × String)) : Action where
  runfiles := .ofList [(.ofString "r", .ofList (files.map fun (place, source) =>
    (.ofString place, some { execPath := .ofString source })))]

def mapped (files : List (String × String)) : Except Failure (List (Path × Input)) :=
  (Engine.lenient.map (bundle files) Engine.expander none fun _ => .ok .file).1

/-- Calls that return different mappings with one listing. -/
def Collide (files files' : List (String × String)) : Prop :=
  ∃ r r' d, mapped files = .ok r ∧ mapped files' = .ok r' ∧
    text (.ofList r) = text (.ofList r') ∧
    ((Table.ofList r).get? d).map sourceText ≠ ((Table.ofList r').get? d).map sourceText

def ran (files : List (String × String)) : Except Failure Unit × Progress :=
  Engine.lenient.run (bundle files) Engine.expander none fun _ => .ok .file

/-- The files are staged, and that in the order of their destinations. -/
def InOrder (files : List (String × String)) : Prop :=
  (ran files).1.toOption.isSome = true ∧
    (ran files).2.ledger.entries.entries.Pairwise fun a b => a.1.le b.1 = true

instance (files : List (String × String)) : Decidable (InOrder files) :=
  inferInstanceAs (Decidable (_ ∧ _))

variable {files files' : List (String × String)}

theorem mapped_of_inOrder (h : InOrder files) :
    mapped files = .ok (ran files).2.ledger.entries.entries := by
  obtain ⟨hok, hsorted⟩ := h
  obtain ⟨u, hu⟩ := Option.isSome_iff_exists.mp hok
  have hrun : (ran files).1 = .ok u := ok_of_toOption hu
  rw [← Table.sorted_of_pairwise hsorted]
  unfold mapped Engine.map
  change (ran files).1.map _ = _
  rw [hrun]
  rfl

theorem text_of_pairwise (h : t.entries.Pairwise fun a b => a.1.le b.1 = true) :
    text t = String.join (t.entries.map line) := by
  rw [text, Table.sorted_of_pairwise h]

/-- What the table of a call looks like once it is listed. -/
def listed (files : List (String × String)) : Table Path Input :=
  .ofList (ran files).2.ledger.entries.entries

theorem collide_of_inOrder (h : InOrder files) (h' : InOrder files')
    (hlisted : (listed files).entries.Pairwise fun a b => a.1.le b.1 = true)
    (hlisted' : (listed files').entries.Pairwise fun a b => a.1.le b.1 = true)
    (htext : String.join ((listed files).entries.map line) =
      String.join ((listed files').entries.map line)) (d : Path)
    (hd : ((listed files).get? d).map sourceText ≠ ((listed files').get? d).map sourceText) :
    Collide files files' := by
  refine ⟨_, _, d, mapped_of_inOrder h, mapped_of_inOrder h', ?_, hd⟩
  exact (text_of_pairwise hlisted).trans (htext.trans (text_of_pairwise hlisted').symm)

/-- A space in a destination and one in a source, a space and a line feed in a destination, a line
feed and a space in a source, a line feed in a source and one in a destination. -/
theorem text_ambiguous :
    (¬ ∀ (e : Engine) (action action' : Action) (x : Expander) (base : Option Spelling)
      (metadata : Metadata) (r r' : List (Path × Input)),
      (e.map action x base metadata).1 = .ok r → (e.map action' x base metadata).1 = .ok r' →
      text (.ofList r) = text (.ofList r') →
      ∀ d, ((Table.ofList r).get? d).map sourceText = ((Table.ofList r').get? d).map sourceText) ∧
    Collide [("a", "b c")] [("a b", "c")] ∧
    Collide [("a b\nr/c", "d")] [("a", "b"), ("c", "d")] ∧
    Collide [("a", "b\nr/c d")] [("a", "b"), ("c", "d")] ∧
    Collide [("a", "x\nr/y"), ("z", "s")] [("a", "x"), ("y\nr/z", "s")] := by
  have hspace : Collide [("a", "b c")] [("a b", "c")] :=
    collide_of_inOrder (by decide) (by decide) (by decide) (by decide) (by decide)
      (.ofString "r/a") (by decide)
  refine ⟨fun hall => ?_, hspace, ?_, ?_, ?_⟩
  · obtain ⟨r, r', d, hr, hr', htext, hd⟩ := hspace
    exact hd (hall _ _ _ _ _ _ r r' hr hr' htext d)
  · exact collide_of_inOrder (by decide) (by decide) (by decide) (by decide) (by decide)
      (.ofString "r/a") (by decide)
  · exact collide_of_inOrder (by decide) (by decide) (by decide) (by decide) (by decide)
      (.ofString "r/a") (by decide)
  · exact collide_of_inOrder (by decide) (by decide) (by decide) (by decide) (by decide)
      (.ofString "r/a") (by decide)

end Listing

end InputStaging
