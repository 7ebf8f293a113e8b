import InputStaging.Yaml.Unfold

/-!
# YAML

Documents from texts in YAML 1.1, restricted to one document of the standard types.
-/

namespace InputStaging

/-- Line ends as a text file may have them, as newlines. -/
def newlinesFrom (read : List Char) : List Char → List Char
  | '\r' :: '\n' :: cs => newlinesFrom ('\n' :: read) cs
  | '\r' :: cs => newlinesFrom ('\n' :: read) cs
  | c :: cs => newlinesFrom (c :: read) cs
  | [] => read.reverse

def newlines (cs : List Char) : List Char := newlinesFrom [] cs

/-- The document that a text holds. An empty text holds null. -/
def Document.ofYaml (text : String) (order : SetOrder := .written) :
    Except Yaml.Fault Document := do
  (← Yaml.Graph.ofTokens (Yaml.Tokens.ofText (newlines text.toList))).document order

end InputStaging
