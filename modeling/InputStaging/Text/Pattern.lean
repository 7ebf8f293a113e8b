/-!
# Patterns

Regular expressions over characters, matched by derivatives: what remains to be matched
after a character is again a pattern.
-/

namespace InputStaging.Text

inductive Pattern where
  | never
  | empty
  | char (ok : Char → Bool)
  | seq (p q : Pattern)
  | alt (p q : Pattern)
  | star (p : Pattern)

namespace Pattern

/-- The pattern matches the empty text. -/
def nullable : Pattern → Bool
  | never | char _ => false
  | empty | star _ => true
  | seq p q => p.nullable && q.nullable
  | alt p q => p.nullable || q.nullable

/-- A sequence without the parts that make no difference. -/
def andThen : Pattern → Pattern → Pattern
  | never, _ => never
  | _, never => never
  | empty, q => q
  | p, empty => p
  | p, q => seq p q

/-- An alternative without the parts that make no difference. -/
def orElse : Pattern → Pattern → Pattern
  | never, q => q
  | p, never => p
  | p, q => alt p q

/-- What has to follow a character. -/
def derive (c : Char) : Pattern → Pattern
  | never | empty => never
  | char ok => if ok c then empty else never
  | seq p q =>
    let first := (p.derive c).andThen q
    if p.nullable then first.orElse (q.derive c) else first
  | alt p q => (p.derive c).orElse (q.derive c)
  | star p => (p.derive c).andThen (star p)

/-- The pattern matches the whole text. -/
def accepts (p : Pattern) (cs : List Char) : Bool := (cs.foldl (fun p c => p.derive c) p).nullable

def opt (p : Pattern) : Pattern := alt p empty

def plus (p : Pattern) : Pattern := seq p (star p)

def one (c : Char) : Pattern := char (· = c)

def oneOf (s : String) : Pattern := char (s.toList.contains ·)

def word (s : String) : Pattern := s.toList.foldr (fun c p => seq (one c) p) empty

def anyOf (ps : List Pattern) : Pattern := ps.foldr alt never

def all (ps : List Pattern) : Pattern := ps.foldr seq empty

def digit : Pattern := char Char.isDigit

end Pattern

end InputStaging.Text
