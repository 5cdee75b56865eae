import TreePattern.Expression.Basic
import TreePattern.Expression.Reading
import TreePattern.Expression.Search
import TreePattern.Expression.Size

/-!
# Compiling expressions

What is written is read as a term, the term is given a shape, and the shape is searched for in
texts.

* `Expression.ofSource?`: the expression that is written in a text, if it is one.
* `Expression.source_of_ofSource?`: what a text compiles to is written like it.
-/

namespace TreePattern.Expression

/-- The shape of the expression that is written in a text. There is none when the text is no
expression, when it nests too deep, and when it is too large. -/
def compile? (source : String) : Option Shape := do
  let shape ← (← Term.ofText? source).shape?
  if shape.fits then some shape else none

/-- The expression that is written in a text. -/
def ofSource? (source : String) : Option Expression :=
  (compile? source).map fun shape => ⟨source, shape.occursIn⟩

/-- What a text compiles to is written like it. -/
theorem source_of_ofSource? {source : String} {e : Expression} (h : ofSource? source = some e) :
    e.source = source := by
  obtain ⟨shape, -, rfl⟩ := Option.map_eq_some_iff.1 h
  rfl

end TreePattern.Expression
