/-
The document of a YAML text.

A text is read twice.  `Token.list` and `Node` give its nodes, and the stricter rules of
layout have to let it pass as well, with no more aliases than its anchors make likely.
What the stricter rules see is the first document alone.
-/
import Turnstile.Yaml.Node
import Turnstile.Yaml.Strict.Token

namespace Turnstile.Yaml.Document

/-- So many aliases are fine with any number of anchors. -/
def freeAliases : Nat := 99

/-- So many aliases are fine for each anchor. -/
def aliasesPerAnchor : Nat := 10

/-- There are no more aliases than the anchors make likely. -/
def isFrugal (d : Document) : Bool :=
  d.aliases ≤ freeAliases || d.aliases ≤ aliasesPerAnchor * d.anchors

/-- A text keeps the stricter rules up to the end of its first document. -/
def isStrict (text : String) : Bool :=
  match first? (Strict.tokens text) with
  | some (d, rest) => ends rest && d.isFrugal
  | none => false

/-- The document of a text, `some none` if the text holds no document. -/
def ofText? (text : String) : Option (Option Document) :=
  match Token.list text with
  | [] => some none
  | tokens => do
    let (d, rest) ← first? tokens
    if isLast rest && isStrict text then some (some d) else none

end Turnstile.Yaml.Document
