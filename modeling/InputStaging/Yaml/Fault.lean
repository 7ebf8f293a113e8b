import InputStaging.Calendar
import InputStaging.Number.Reading

/-!
# Faults of YAML texts

A text is malformed if it is no YAML, or no single document of known types. Apart from
that, a scalar may be spelt like a value of its type and still have none.
-/

namespace InputStaging.Yaml

/-- Why a text is no document. -/
inductive Malformation where
  | unprintable (c : Char)
  | unfinishedKey
  | misplaced (what : String)
  | strayCharacter (c : Char)
  | badDirective
  | badName
  | badTag
  | badBlockHeader
  | badEscape
  | unterminatedQuotes
  | expected (what : String)
  | undefinedAlias (name : String)
  | duplicateAnchor (name : String)
  | severalDocuments
  | unknownTag (tag : String)
  | wrongShape (expected : String)
  | compoundKey
  | badMerge
  | badBinary
  deriving DecidableEq, Repr

def Malformation.message : Malformation → String
  | unprintable c => s!"special characters are not allowed: {Text.quoted (String.singleton c)}"
  | unfinishedKey => "could not find expected ':'"
  | misplaced what => s!"{what} are not allowed here"
  | strayCharacter c => s!"found character {Text.quoted (String.singleton c)} that cannot start any token"
  | badDirective => "found a directive that cannot be read"
  | badName => "expected a name of letters and digits"
  | badTag => "found a tag that cannot be read"
  | badBlockHeader => "found a block scalar header that cannot be read"
  | badEscape => "found unknown escape"
  | unterminatedQuotes => "found unexpected end of a quoted scalar"
  | expected what => s!"expected {what}"
  | undefinedAlias name => s!"found undefined alias {Text.quoted name}"
  | duplicateAnchor name => s!"found duplicate anchor {Text.quoted name}"
  | severalDocuments => "expected a single document in the stream"
  | unknownTag tag => s!"could not determine a constructor for the tag {Text.quoted tag}"
  | wrongShape what => s!"expected a {what} node"
  | compoundKey => "found unhashable key"
  | badMerge => "expected a mapping or list of mappings for merging"
  | badBinary => "failed to decode base64 data"

/-- Why a scalar has no value of its type. -/
inductive ScalarFault where
  | calendar (f : CalendarFault)
  | number (f : Number.NumberFault)
  /-- Nothing is left of a number without its sign. -/
  | noNumber
  | truth (text : String)
  /-- Text that has not the form of a date or a time. -/
  | noTimestamp
  /-- A mapping in the place of the text of a date or a time. -/
  | timestampOfMapping
  /-- A collection too deep within others, or a scalar that is looked for in a mapping that
  contains itself. -/
  | tooDeep
  /-- The number of no character. -/
  | codePoint
  /-- A number of a character that does not fit into 31 bits. -/
  | codePointSize
  deriving DecidableEq, Repr

def calendarMessage : CalendarFault → String
  | .year n => s!"year {n} is out of range"
  | .month => "month must be in 1..12"
  | .day => "day is out of range for month"
  | .hour => "hour must be in 0..23"
  | .minute => "minute must be in 0..59"
  | .second => "second must be in 0..59"
  | .offset s =>
    "offset must be a timedelta strictly between -timedelta(hours=24) and timedelta(hours=24), not "
      ++ spanText s ++ "."

def ScalarFault.message : ScalarFault → String
  | calendar f => calendarMessage f
  | number f => f.message
  | noNumber => "string index out of range"
  | truth text => Text.quoted text
  | noTimestamp => "'NoneType' object has no attribute 'groupdict'"
  | timestampOfMapping => "expected string or bytes-like object, got 'list'"
  | tooDeep => "maximum recursion depth exceeded"
  | codePoint => "chr() arg not in range(0x110000)"
  | codePointSize => "Python int too large to convert to C int"

inductive Fault where
  | malformed (m : Malformation)
  | scalar (f : ScalarFault)
  deriving DecidableEq, Repr

end InputStaging.Yaml
