import InputStaging.Number.Binary64
import InputStaging.Number.Reading

/-!
# Whole numbers, leniently

A whole number in decimal is a minus sign or none, and digits without a leading zero.
Texts that have not this form are brought into it if they differ in details only: blanks
around the number, a plus sign, leading zeros, zeros behind a point, and underscores
between digits.
-/

namespace InputStaging.Number

/-- Why a text is no whole number. -/
inductive WholeFault where
  | noNumber
  | tooLong
  deriving DecidableEq, Repr

/-- A whole number in its plain form. The digits are counted before anything behind them is
looked at. -/
def plainWhole (cs : List Char) : Except WholeFault Int :=
  let (negative, digits) : Bool × List Char := match cs with
    | '-' :: cs => (true, cs)
    | cs => (false, cs)
  let run := digits.takeWhile Char.isDigit
  if run = [] ∨ (run.head? = some '0' ∧ 1 < run.length) then .error .noNumber
  else if mostDigits < run.length then .error .tooLong
  else if run.length < digits.length then .error .noNumber
  else .ok (if negative then -(ofDigits 10 run : Int) else ofDigits 10 run)

/-- What follows leading zeros, and underscores among them. In front of a point, and at the
end, one character of them is kept. -/
def afterZeros (last : Char) : List Char → Option (List Char)
  | [] => some [last]
  | c :: cs =>
    if c = '0' ∨ c = '_' then afterZeros c cs
    else if c.isDigit ∨ c = '-' then some (c :: cs)
    else if c = '.' then some (last :: c :: cs)
    else none

def withoutZeros : List Char → Option (List Char)
  | [] => none
  | c :: cs =>
    if c = '0' then afterZeros c cs else if c.isDigit ∨ c = '-' then some (c :: cs) else none

/-- Without a point and the zeros behind it. -/
def withoutFraction (cs : List Char) : List Char :=
  let whole := cs.takeWhile (· ≠ '.')
  let zeros := (cs.drop whole.length).drop 1
  if zeros ≠ [] ∧ zeros.all (· = '0') then whole else cs

/-- Underscores stand one by one, and between other characters. -/
def isGrouped : List Char → Bool
  | [] => true
  | ['_'] => false
  | '_' :: '_' :: _ => false
  | _ :: cs => isGrouped cs

def withoutGroups (cs : List Char) : List Char :=
  if cs.head? ≠ some '_' ∧ isGrouped cs then cs.filter (· ≠ '_') else cs

/-- Bring a text into the plain form, as far as it can be. -/
def cleaned? (cs : List Char) : Option (List Char) :=
  let clean (cs : List Char) : Option (List Char) :=
    (withoutZeros cs).map fun cs => withoutGroups (withoutFraction cs)
  match Text.trim Text.isBlank cs with
  | '+' :: '-' :: _ => none
  | '+' :: cs => clean cs
  | '-' :: cs => (clean cs).map ('-' :: ·)
  | cs => clean cs

/-- A whole number in decimal. Only a text in the plain form can be too long for one. -/
def lenientWhole (cs : List Char) : Except WholeFault Int :=
  match plainWhole cs with
  | .error .noNumber =>
    match (cleaned? cs).map plainWhole with
    | some (.ok n) => .ok n
    | _ => .error .noNumber
  | x => x

end InputStaging.Number
