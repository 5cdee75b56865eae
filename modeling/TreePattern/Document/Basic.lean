import TreePattern.Tree

/-!
# Documents

A document is an ordered forest of elements and texts, kept as a table of entries. An entry names
its first child and its next sibling by their places in the table, and links only ever point
further on; the table is therefore in document order and can be walked without going in circles.

* `Document.tree`: a document as a tree to walk.
* `Document.lt_of_link`: every link leads to a node with a greater number.
-/

namespace TreePattern

namespace Document

/-- What a node of a document is. -/
inductive Content where
  /-- An element with its tag name. -/
  | element (name : String)
  /-- A piece of text. -/
  | text (text : String)
  deriving DecidableEq

namespace Content

/-- The tag name of an element. -/
def tag? : Content → Option String
  | element name => some name
  | text _ => none

/-- The text of a text node. -/
def text? : Content → Option String
  | element _ => none
  | text s => some s

end Content

/-- One line of a document's table: a node with its links. -/
structure Entry where
  /-- What the node is. -/
  content : Content
  /-- The number of its first child. -/
  child : Option Nat
  /-- The number of its next sibling. -/
  next : Option Nat
  deriving DecidableEq

end Document

/-- An ordered forest of elements and texts, its nodes numbered in document order. -/
structure Document where
  /-- The nodes, each at its own number. -/
  entries : Array Document.Entry
  /-- The number of the first top-level node. -/
  root : Option Nat
  /-- Links point further on and stay inside the table. -/
  forward : ∀ i e j, entries[i]? = some e → e.child = some j ∨ e.next = some j →
    i < j ∧ j < entries.size
  /-- The first top-level node is in the table. -/
  root_lt : ∀ j, root = some j → j < entries.size
  deriving DecidableEq

namespace Document

/-- The document without nodes. -/
def empty : Document where
  entries := #[]
  root := none
  forward := by simp
  root_lt := by simp

instance : Inhabited Document := ⟨empty⟩

/-- The number of nodes. -/
def size (d : Document) : Nat := d.entries.size

/-- Whether the document has no nodes. -/
def isEmpty (d : Document) : Bool := d.entries.isEmpty

/-- A node of the document, by its number. -/
abbrev Node (d : Document) : Type := Fin d.entries.size

variable {d : Document}

/-- The node with a given number. -/
def node? (d : Document) (i : Nat) : Option d.Node :=
  if h : i < d.entries.size then some ⟨i, h⟩ else none

/-- All nodes in document order. -/
def nodes (d : Document) : List d.Node := List.finRange d.entries.size

/-- The line of the table that holds a node. -/
def entry (n : d.Node) : Entry := d.entries[n]

/-- What a node is. -/
def content (n : d.Node) : Content := (entry n).content

/-- The first top-level node. -/
def rootNode (d : Document) : Option d.Node := d.root.bind d.node?

/-- The first child of a node. -/
def child (n : d.Node) : Option d.Node := (entry n).child.bind d.node?

/-- The next sibling of a node. -/
def next (n : d.Node) : Option d.Node := (entry n).next.bind d.node?

/-! ### Links -/

theorem node?_eq_some {i : Nat} {n : d.Node} : d.node? i = some n ↔ i = n := by
  unfold node?
  split
  · simp [Fin.ext_iff]
  · rename_i h
    simp only [reduceCtorEq, false_iff]
    rintro rfl
    exact h n.isLt

/-- Looking a node up by its own number finds it. -/
@[simp] theorem node?_self (n : d.Node) : d.node? n = some n :=
  node?_eq_some.2 rfl

theorem child_eq_some {m n : d.Node} : child m = some n ↔ (entry m).child = some n.val := by
  simp [child, Option.bind_eq_some_iff, node?_eq_some]

theorem next_eq_some {m n : d.Node} : next m = some n ↔ (entry m).next = some n.val := by
  simp [next, Option.bind_eq_some_iff, node?_eq_some]

/-- Every link leads to a node with a greater number. -/
theorem lt_of_link {m n : d.Node} (h : child m = some n ∨ next m = some n) : m < n :=
  (d.forward m (entry m) n (Array.getElem?_eq_getElem m.isLt)
    (h.imp child_eq_some.1 next_eq_some.1)).1

/-- A document as a tree to walk. -/
def tree (d : Document) : Tree d.Node where
  tag n := (content n).tag?
  isText n := (content n).text?.isSome
  text n := (content n).text?
  child := child
  next := next
  finite := Subrelation.wf (fun {_ _} h => Nat.sub_lt_sub_left (Fin.isLt _) (lt_of_link h))
    (measure fun n : d.Node => d.entries.size - n.val).wf

end Document

end TreePattern
