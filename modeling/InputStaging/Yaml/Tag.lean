import InputStaging.Text.Pattern
import InputStaging.Yaml.Fault

/-!
# Types of YAML nodes

The tag of a node says what type it has. A plain scalar without a tag has the type whose
spelling it has, in the order of `Tag.spellings`, and is text if it has none of them.
-/

namespace InputStaging.Yaml

inductive Tag where
  | null
  | bool
  | int
  | float
  | binary
  | timestamp
  | omap
  | pairs
  | set
  | text
  | sequence
  | mapping
  /-- The key `<<`, which takes in other mappings. -/
  | merge
  /-- The key `=`. -/
  | value
  | other (uri : String)
  deriving DecidableEq, Repr, Inhabited

namespace Tag

/-- The addresses of the known types. -/
def known : List (String × Tag) :=
  [("null", null), ("bool", bool), ("int", int), ("float", float), ("binary", binary),
   ("timestamp", timestamp), ("omap", omap), ("pairs", pairs), ("set", set), ("str", text),
   ("seq", sequence), ("map", mapping), ("merge", merge), ("value", value)].map
    fun (n, t) => ("tag:yaml.org,2002:" ++ n, t)

def ofUri (uri : String) : Tag := (known.lookup uri).getD (other uri)

/-- How messages name a tag. -/
def uri : Tag → String
  | other u => u
  | t => ((known.find? (·.2 = t)).map (·.1)).getD ""

open Text.Pattern

def sign : Text.Pattern := opt (oneOf "+-")

/-- Digits of some kind, with underscores among them. -/
def digits (s : String) : Text.Pattern := oneOf (s ++ "_")

def decimals : Text.Pattern := star (digits "0123456789")

def exponent : Text.Pattern := opt (all [oneOf "eE", oneOf "+-", plus digit])

/-- Sixties, each behind a colon. -/
def sixties : Text.Pattern := plus (all [one ':', opt (oneOf "012345"), digit])

def capitalized (s : String) : String :=
  String.ofList ((s.toList.take 1).map Char.toUpper ++ s.toList.drop 1)

/-- A name in lower case, in capitals, or with a capital in front. -/
def cased (s : String) : Text.Pattern :=
  anyOf [word s, word (capitalized s), word (String.ofList (s.toList.map Char.toUpper))]

def bools : Text.Pattern := anyOf (["yes", "no", "true", "false", "on", "off"].map cased)

def floats : Text.Pattern :=
  anyOf [all [sign, digit, decimals, one '.', decimals, exponent],
    all [one '.', digit, decimals, exponent],
    all [sign, digit, decimals, sixties, one '.', decimals],
    all [sign, one '.', anyOf [word "inf", word "Inf", word "INF"]],
    all [one '.', anyOf [word "nan", word "NaN", word "NAN"]]]

def nonzero : Text.Pattern := oneOf "123456789"

def ints : Text.Pattern :=
  anyOf [all [sign, word "0b", plus (digits "01")],
    all [sign, one '0', plus (digits "01234567")],
    all [sign, anyOf [one '0', all [nonzero, decimals]]],
    all [sign, word "0x", plus (digits "0123456789abcdefABCDEF")],
    all [sign, nonzero, decimals, sixties]]

def nulls : Text.Pattern := anyOf [one '~', cased "null", empty]

def blanks : Text.Pattern := oneOf " \t"

def timestamps : Text.Pattern :=
  let year := all [digit, digit, digit, digit]
  let few := all [digit, opt digit]
  let zone := anyOf [one 'Z', all [oneOf "+-", few, opt (all [one ':', digit, digit])]]
  anyOf [all [year, one '-', digit, digit, one '-', digit, digit],
    all [year, one '-', few, one '-', few, anyOf [oneOf "Tt", plus blanks], few,
      one ':', digit, digit, one ':', digit, digit, opt (all [one '.', star digit]),
      opt (all [star blanks, zone])]]

/-- The type of the spellings that are kept for later use. No node can have it. -/
def reserved : Tag := other "tag:yaml.org,2002:yaml"

/-- The spellings that give a plain scalar its type. -/
def spellings : List (Tag × Text.Pattern) :=
  [(bool, bools), (float, floats), (int, ints), (merge, word "<<"), (null, nulls),
   (timestamp, timestamps), (value, word "="), (reserved, oneOf "!&*")]

/-- A line end at the end of a spelling makes no difference. -/
def withoutLineEnd (cs : List Char) : List Char :=
  if cs.getLast? = some '\n' then cs.dropLast else cs

/-- The type of a plain scalar. A line end alone is text. -/
def ofPlain (cs : List Char) : Tag :=
  if cs = ['\n'] then text
  else
    let cs := withoutLineEnd cs
    ((spellings.find? fun s => s.2.accepts cs).map (·.1)).getD text

end Tag

end InputStaging.Yaml
