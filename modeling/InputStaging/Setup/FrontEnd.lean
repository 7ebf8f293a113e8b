import InputStaging.Setup.Outline
import InputStaging.Setup.Written
import InputStaging.Yaml

/-!
# Front ends

What stands between the text of a file and what it says: a parser, and a check of each kind of
document field by field. All that is read of files is read by way of a front end, and nothing
that comes after it depends on which one it is.
-/

namespace InputStaging

structure FrontEnd where
  /-- The document that a text holds. -/
  yaml : String → Except Yaml.Fault Document
  /-- The fields of a description. -/
  outline : List (Document × Document) → Checked Outline
  /-- The fields of the settings, given what to make of the execution root's. -/
  settings : Document.Reader String → List (Document × Document) → Checked Settings.Written

/-- The parser and the schemas of this library. -/
def FrontEnd.own (order : SetOrder := .written) : FrontEnd where
  yaml text := Document.ofYaml text order
  outline := Outline.readFields
  settings := Settings.Written.readFields

end InputStaging
