/-!
# Code points in texts

Texts may hold the code points U+D800 to U+DFFF on their own: escapes can write these halves
of surrogate pairs, although no encoding can. No character stands for such a half, so that a
text holds a private-use character in its stead, in the block of the last plane that ends
in the same four digits. The code points of that block are held as two characters each: a
mark, and a character from in front of the mark. So is the mark itself, which comes right
before the block. Hence no two code points are held in the same way.
-/

namespace InputStaging.Text

/-- The largest code point. -/
def lastCodePoint : Nat := 0x10FFFF

/-- Half of a surrogate pair. -/
def isHalfCode (n : Nat) : Bool := 0xD800 ≤ n && n ≤ 0xDFFF

/-- How far the stand-in of a half is from its code. -/
def standInShift : Nat := 0x100000

def isHalf (c : Char) : Bool := standInShift ≤ c.toNat && isHalfCode (c.toNat - standInShift)

/-- The number of the mark. -/
def markCode : Nat := 0x10D7FF

def mark : Char := Char.ofNat markCode

/-- The mark, or in the block of the stand-ins. -/
def isMarkedCode (n : Nat) : Bool := markCode ≤ n && n ≤ 0x10DFFF

/-- How far what follows a mark is from the code point that it stands for. -/
def markShift : Nat := 0x801

/-- The characters that a text holds for a code point. -/
def writing (n : Nat) : List Char :=
  if isHalfCode n then [Char.ofNat (n + standInShift)]
  else if isMarkedCode n then [mark, Char.ofNat (n - markShift)]
  else [Char.ofNat n]

/-- The code point that a character stands for on its own. -/
def codePoint (c : Char) : Nat := if isHalf c then c.toNat - standInShift else c.toNat

/-- The code points that a text holds, after those that were read, the last of them first. -/
def codePointsFrom (read : List Nat) : List Char → List Nat
  | [] => read.reverse
  | [c] => (codePoint c :: read).reverse
  | c :: d :: cs =>
    if c = mark then codePointsFrom ((d.toNat + markShift) :: read) cs
    else codePointsFrom (codePoint c :: read) (d :: cs)

def codePoints (cs : List Char) : List Nat := codePointsFrom [] cs

/-! ## Reading back -/

/-- Every code point but the halves is that of a character. -/
theorem toNat_ofNat {n : Nat} (h : n ≤ lastCodePoint) (hn : isHalfCode n = false) :
    (Char.ofNat n).toNat = n := by
  have valid : n.isValidChar := by
    simp only [isHalfCode, lastCodePoint, Nat.isValidChar, Bool.and_eq_false_iff,
      decide_eq_false_iff_not] at *
    omega
  rw [Char.ofNat, dif_pos valid]
  rfl

theorem isMarkedCode_iff {n : Nat} :
    isMarkedCode n = true ↔ markCode ≤ n ∧ n ≤ 0x10DFFF := by
  rw [isMarkedCode, Bool.and_eq_true, decide_eq_true_iff, decide_eq_true_iff]

theorem toNat_mark : mark.toNat = markCode := toNat_ofNat (by decide) (by decide)

theorem codePointsFrom_eq (read : List Nat) : (cs : List Char) →
    codePointsFrom read cs = read.reverse ++ codePoints cs
  | [] => by simp [codePoints, codePointsFrom]
  | [c] => by simp [codePoints, codePointsFrom]
  | c :: d :: cs => by
    unfold codePoints codePointsFrom
    split
    · rw [codePointsFrom_eq _ cs, codePointsFrom_eq [_] cs]
      simp
    · rw [codePointsFrom_eq _ (d :: cs), codePointsFrom_eq [_] (d :: cs)]
      simp

theorem codePoints_mark (c : Char) (cs : List Char) :
    codePoints (mark :: c :: cs) = (c.toNat + markShift) :: codePoints cs := by
  rw [codePoints, codePointsFrom, if_pos rfl, codePointsFrom_eq, List.reverse_singleton,
    List.singleton_append]

theorem codePoints_cons {c : Char} (h : c.toNat ≠ markCode) (cs : List Char) :
    codePoints (c :: cs) = codePoint c :: codePoints cs := by
  have hc : c ≠ mark := fun e => h (e ▸ toNat_mark)
  cases cs with
  | nil => rfl
  | cons d cs =>
    rw [codePoints, codePointsFrom, if_neg hc, codePointsFrom_eq, List.reverse_singleton,
      List.singleton_append]

theorem codePoint_of_isHalf {c : Char} (h : isHalf c = true) :
    codePoint c = c.toNat - standInShift := by
  simp [codePoint, h]

theorem codePoint_of_not_isHalf {c : Char} (h : isHalf c = false) : codePoint c = c.toNat := by
  simp [codePoint, h]

/-- What is held for a code point is read as that code point. -/
theorem codePoints_writing {n : Nat} (h : n ≤ lastCodePoint) (cs : List Char) :
    codePoints (writing n ++ cs) = n :: codePoints cs := by
  unfold writing
  split
  next half =>
    have bounds : 0xD800 ≤ n ∧ n ≤ 0xDFFF := by
      simpa only [isHalfCode, Bool.and_eq_true, decide_eq_true_eq] using half
    have value : (Char.ofNat (n + standInShift)).toNat = n + standInShift := by
      apply toNat_ofNat
      · rw [standInShift, lastCodePoint]; omega
      · rw [isHalfCode, standInShift]
        simp only [Bool.and_eq_false_iff, decide_eq_false_iff_not]; omega
    have isStandIn : isHalf (Char.ofNat (n + standInShift)) = true := by
      rw [isHalf, value, Nat.add_sub_cancel, half, Bool.and_true, decide_eq_true_eq]
      omega
    rw [List.singleton_append, codePoints_cons, codePoint_of_isHalf isStandIn, value,
      Nat.add_sub_cancel]
    rw [value, markCode, standInShift]; omega
  next whole =>
    have whole : isHalfCode n = false := by simpa using whole
    split
    next marked =>
      have bounds := isMarkedCode_iff.1 marked
      rw [markCode] at bounds
      have value : (Char.ofNat (n - markShift)).toNat = n - markShift := by
        apply toNat_ofNat
        · rw [markShift]; omega
        · rw [isHalfCode, markShift]
          simp only [Bool.and_eq_false_iff, decide_eq_false_iff_not]; omega
      rw [List.cons_append, List.singleton_append, codePoints_mark, value, Nat.sub_add_cancel]
      rw [markShift]; omega
    next plain =>
      have value := toNat_ofNat h whole
      have outside := mt isMarkedCode_iff.2 plain
      rw [markCode] at outside
      have isPlain : isHalf (Char.ofNat n) = false := by
        rw [isHalf, value, isHalfCode, standInShift]
        simp only [Bool.and_eq_false_iff, decide_eq_false_iff_not]; omega
      rw [List.singleton_append, codePoints_cons, codePoint_of_not_isHalf isPlain, value]
      rw [value, markCode]; omega

/-! ## Halves within a text -/

/-- The text has an encoding. -/
def isEncodable (s : String) : Bool := !s.toList.any isHalf

/-- The half stands for a byte that is part of no character. -/
def isByteHalf (c : Char) : Bool :=
  isHalf c && 0xDC80 ≤ codePoint c && codePoint c ≤ 0xDCFF

/-- The first halves that cannot be handed to the system, with all that stand behind them
in a row, and how many characters are in front. Halves that stand for bytes can be handed
to it. -/
def unspeakable? (cs : List Char) : Option (Nat × List Char) :=
  let before := cs.takeWhile fun c => !isHalf c || isByteHalf c
  match (cs.drop before.length).takeWhile isHalf with
  | [] => none
  | halves => some (before.length, halves)

/-- The system can be asked about a name. -/
def isSpeakable (name : List Char) : Bool := (unspeakable? name).isNone

/-- A half in an encoding would take three bytes, each of which is replaced. -/
def replaceHalves (s : String) : String :=
  String.ofList (s.toList.flatMap fun c =>
    if isHalf c then List.replicate 3 '\ufffd' else [c])

end InputStaging.Text
