import TreePattern.Pattern.Basic

/-!
# Listings of patterns

A listing has one row for every construct of a pattern: first the construct itself, then the rows of
its nested pattern, then those of its continuation. A row tells where in the listing the nested
pattern and the continuation begin.
-/

namespace TreePattern.Pattern

/-- One row of a listing. -/
structure Row where
  /-- The construct. -/
  construct : Construct
  /-- The row of the nested pattern. -/
  child : Option Nat
  /-- The row of the continuation. -/
  next : Option Nat

/-- Adds the rows of a pattern to a listing. -/
def listOnto : Pattern → Array Row → Array Row
  | absent, rows => rows
  | node construct child next, rows =>
    let own := rows.size
    let nested := if child.isAbsent then none else some (own + 1)
    let rows := listOnto child (rows.push ⟨construct, nested, none⟩)
    let after := rows.size
    listOnto next
      (if next.isAbsent then rows else rows.modify own fun row => { row with next := some after })

/-- The listing of a pattern. -/
def rows (p : Pattern) : Array Row := p.listOnto #[]

end TreePattern.Pattern
