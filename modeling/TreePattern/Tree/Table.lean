import TreePattern.Tree

/-!
# Trees given by tables

A tree can be given by a table whose rows say what each node answers, links being the numbers of
rows. Rows may be linked to from several places. A table is a tree when its links run in no circle;
this is checked with heights: a number for every row that is smaller at the end of each link.

* `Table.tree?`: the tree of a table whose links run in no circle.
* `Table.finite_of_falling`: links along which heights fall cannot be followed for ever.
-/

namespace TreePattern

/-- What one row of a table answers. -/
structure TableRow where
  /-- The tag name, if the node has one. -/
  tag : Option String
  /-- Whether the node is a text node. -/
  isText : Bool
  /-- The text, if the node has one. -/
  text : Option String
  /-- The row of the first child. -/
  child : Option Nat
  /-- The row of the next sibling. -/
  next : Option Nat
  deriving Inhabited

/-- The rows of a tree, each at its own number. -/
structure Table where
  /-- The rows. -/
  rows : Array TableRow

namespace Table

variable (table : Table)

/-- A node of the table, by its number. -/
abbrev Node : Type := Fin table.rows.size

/-- The node with a given number. -/
def node? (i : Nat) : Option table.Node :=
  if h : i < table.rows.size then some ⟨i, h⟩ else none

/-- The first child of a node. -/
def child (n : table.Node) : Option table.Node := table.rows[n].child.bind table.node?

/-- The next sibling of a node. -/
def next (n : table.Node) : Option table.Node := table.rows[n].next.bind table.node?

/-! ### Heights -/

/-- The height that a row needs to lie above the rows it links to. -/
def neededHeight (heights : Array Nat) (row : TableRow) : Nat :=
  let above (link : Option Nat) := match link with
    | some j => heights.getD j 0 + 1
    | none => 0
  max (above row.child) (above row.next)

/-- Raises every row above the rows it links to, once, from the last row to the first. -/
def raise (heights : Array Nat) : Array Nat :=
  (List.range table.rows.size).foldr
    (fun i heights => heights.setIfInBounds i (neededHeight heights (table.rows.getD i default)))
    heights

/-- Raises rows until nothing changes any more, or a number of times. -/
def settle : Nat → Array Nat → Array Nat
  | 0, heights => heights
  | rounds + 1, heights =>
    let raised := table.raise heights
    if raised == heights then heights else settle rounds raised

/-- A height for every row. Where links run in no circle, no more rounds are needed than there are
rows. -/
def heights : Array Nat := table.settle table.rows.size (.replicate table.rows.size 0)

/-- Whether heights fall along every link. -/
def falling (heights : Array Nat) : Bool :=
  (List.finRange table.rows.size).all fun n =>
    (table.child n).all (fun m => heights.getD m 0 < heights.getD n 0) &&
      (table.next n).all fun m => heights.getD m 0 < heights.getD n 0

/-- Links along which heights fall cannot be followed for ever. -/
theorem finite_of_falling {heights : Array Nat} (h : table.falling heights = true) :
    WellFounded fun b a => table.child a = some b ∨ table.next a = some b := by
  refine Subrelation.wf (fun {b a} hab => ?_)
    (measure fun n : table.Node => heights.getD n 0).wf
  have := List.all_eq_true.1 h a (List.mem_finRange a)
  simp only [Bool.and_eq_true] at this
  change heights.getD b 0 < heights.getD a 0
  rcases hab with hab | hab
  · simpa [hab] using this.1
  · simpa [hab] using this.2

/-- The tree of a table whose links run in no circle. -/
def tree? : Option (Tree table.Node) :=
  let heights := table.heights
  if h : table.falling heights then
    some {
      tag := fun n => table.rows[n].tag
      isText := fun n => table.rows[n].isText
      text := fun n => table.rows[n].text
      child := table.child
      next := table.next
      finite := table.finite_of_falling h }
  else none

end Table

end TreePattern
