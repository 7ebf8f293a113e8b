import InputStaging.Text.CodePoint

/-!
# Paths

A path is a root and a list of segments. Reading a spelling drops empty segments
and `.`, keeps `..`, and tells `//` apart from every other run of leading slashes.
Nothing here looks at a disk, and `..` is not collapsed: see `Path.Lexical`.
-/

namespace InputStaging

/-- Where a path starts: at no root, at `/`, or at the distinct root `//`. -/
inductive Root where
  | relative
  | slash
  | doubleSlash
  deriving DecidableEq, Repr

namespace Root

def text : Root → String
  | relative => ""
  | slash => "/"
  | doubleSlash => "//"

/-- Two leading slashes are a root of their own; one, three or more are `/`. -/
def ofChars : List Char → Root
  | '/' :: '/' :: '/' :: _ => slash
  | '/' :: '/' :: _ => doubleSlash
  | '/' :: _ => slash
  | _ => relative

end Root

/-- A segment is non-empty, is not `.`, and holds no slash. -/
def IsSegment (s : String) : Prop :=
  s ≠ "" ∧ s ≠ "." ∧ '/' ∉ s.toList

instance (s : String) : Decidable (IsSegment s) :=
  inferInstanceAs (Decidable (_ ∧ _ ∧ _))

@[ext]
structure Path where
  root : Root
  segments : List String
  isSegment : ∀ s ∈ segments, IsSegment s
  deriving DecidableEq

namespace Path

/-- The empty path: the directory one is in. -/
def here : Path := ⟨.relative, [], by simp⟩

instance : Inhabited Path := ⟨here⟩

/-- The pieces between slashes, empty ones included. -/
def pieces : List Char → List (List Char)
  | [] => [[]]
  | c :: cs =>
      if c = '/' then [] :: pieces cs
      else
        match pieces cs with
        | [] => [[c]]
        | p :: ps => (c :: p) :: ps

/-- Read a spelling. -/
def ofString (s : String) : Path where
  root := .ofChars s.toList
  segments := ((pieces s.toList).map String.ofList).filter fun t => decide (IsSegment t)
  isSegment := by simp

/-- The canonical spelling; the empty path is written `.`. -/
def text (p : Path) : String :=
  if p.root = .relative ∧ p.segments = [] then "."
  else p.root.text ++ "/".intercalate p.segments

def isAbsolute (p : Path) : Bool := p.root ≠ .relative

/-- An absolute right operand replaces the left one. -/
def join (p q : Path) : Path :=
  if q.isAbsolute then q
  else
    { root := p.root
      segments := p.segments ++ q.segments
      isSegment := fun s h => (List.mem_append.mp h).elim (p.isSegment s) (q.isSegment s) }

instance : Div Path := ⟨join⟩

/-- The path without its last segment; a root, and the empty path, are their own parent. -/
def parent (p : Path) : Path where
  root := p.root
  segments := p.segments.dropLast
  isSegment := fun s h => p.isSegment s (List.dropLast_subset _ h)

/-- What comes after the first segment. -/
def tail (p : Path) : Path where
  root := .relative
  segments := p.segments.tail
  isSegment := fun s h => p.isSegment s (List.mem_of_mem_tail h)

/-- What two paths are compared by: the root, if there is one, then the segments. -/
def parts (p : Path) : List String :=
  match p.root with
  | .relative => p.segments
  | r => r.text :: p.segments

/-- Lists are ordered by the first place where they differ; what ends there comes first. -/
def lexLe {α : Type} [DecidableEq α] (lt : α → α → Bool) : List α → List α → Bool
  | [], _ => true
  | _ :: _, [] => false
  | a :: as, b :: bs => lt a b || (a = b && lexLe lt as bs)

/-- Texts are ordered by the code points that their characters stand for. -/
def textLt (s t : String) : Bool :=
  s ≠ t && lexLe (fun c d => decide (Text.codePoint c < Text.codePoint d)) s.toList t.toList

/-- Paths are ordered part by part, not by their spelling: `a/b` comes before `a-`. -/
def le (p q : Path) : Bool := lexLe textLt p.parts q.parts

@[simp] theorem here_segments : here.segments = [] := rfl

@[simp] theorem here_root : here.root = .relative := rfl

theorem div_def (p q : Path) : p / q = join p q := rfl

theorem div_of_isAbsolute {p q : Path} (h : q.isAbsolute = true) : p / q = q := by
  simp [div_def, join, h]

theorem segments_div {p q : Path} (h : q.isAbsolute = false) :
    (p / q).segments = p.segments ++ q.segments := by
  simp [div_def, join, h]

theorem root_div {p q : Path} (h : q.isAbsolute = false) : (p / q).root = p.root := by
  simp [div_def, join, h]

end Path

end InputStaging
