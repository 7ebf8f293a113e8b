import InputStaging.Text.CaseTable

/-!
# Letter case

Names are compared in lower case, and names of log levels are looked up, and reported,
in upper case. A letter may become several. A capital sigma becomes the final form of
the small one where a word ends with it.
-/

namespace InputStaging.Text

open CaseTable

/-- The images of a letter under a case mapping. -/
def mapped (runs : List Run) (several : List (Nat × List Nat)) (c : Char) : List Char :=
  let n := c.toNat
  match several.lookup n, runs.findSome? (·.image? n) with
  | some ns, _ => ns.map Char.ofNat
  | none, some m => [Char.ofNat m]
  | none, none => [c]

def lowerChar (c : Char) : List Char :=
  if c.toNat < 0x80 then [c.toLower] else mapped lowerRuns lowerSeveral c

def upperChar (c : Char) : List Char :=
  if c.toNat < 0x80 then [c.toUpper] else mapped upperRuns upperSeveral c

/-- The next character that is not passed over has case. -/
def meetsCased : List Char → Bool
  | [] => false
  | c :: cs => if ignorable.contains c.toNat then meetsCased cs else cased.contains c.toNat

/-- Lower case of what follows `before`, whose last character comes first. -/
def lowerFrom (before : List Char) : List Char → List Char
  | [] => []
  | c :: cs =>
    let images :=
      if c = '\u03a3' then [if meetsCased before && !meetsCased cs then '\u03c2' else '\u03c3']
      else lowerChar c
    images ++ lowerFrom (c :: before) cs

def lower (cs : List Char) : List Char := lowerFrom [] cs

def upper (cs : List Char) : List Char := cs.flatMap upperChar

end InputStaging.Text
