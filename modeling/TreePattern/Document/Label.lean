import TreePattern.Document.Basic
import TreePattern.Text.Quoted

/-!
# Labels of nodes

A node is named in listings by what it is and its number: an element by its tag, a text node by its
quoted text.
-/

namespace TreePattern.Document

/-- The label of a node: its tag or its quoted text, and its number. -/
def label {d : Document} (n : d.Node) : String :=
  match content n with
  | .element name => "<" ++ name ++ ">#" ++ toString n.val
  | .text text => quote text ++ "#" ++ toString n.val

end TreePattern.Document
