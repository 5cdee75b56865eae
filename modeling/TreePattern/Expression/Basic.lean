/-!
# Expressions

An expression is looked for anywhere in a text. All that a pattern has to do with is how it was
written and in which texts it occurs, so these two are what is kept of it; by what it was compiled,
and with which options, does not matter. The expressions that are compiled here are those of
`Expression.ofSource?`.
-/

namespace TreePattern

/-- A compiled expression: how it is written, and where it occurs. -/
structure Expression where
  /-- The expression as it is written. -/
  source : String
  /-- Whether the expression occurs anywhere in a text. -/
  accepts : String → Bool

end TreePattern
