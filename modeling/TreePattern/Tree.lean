/-!
# Ordered trees seen through their links

A matcher never holds a tree; it holds a node and asks for its tag, its text, its first child and
its next sibling. `Tree ν` is that interface for nodes of type `ν`. Nodes may be shared, so the
picture is a graph whose unfolding is the tree; the one thing asked of it is that no path of links
goes on for ever.

* `Tree.Link a b`: `b` is the first child or the next sibling of `a`.
* `Tree.Ahead p n`: the node `n` lies one or more links beyond the position `p`.
* `Tree.ahead_wellFounded`: moving ahead ends, which is what lets a search restart further on.
-/

namespace TreePattern

/-- An ordered tree of nodes `ν`, known by what each node answers. -/
structure Tree (ν : Type) where
  /-- The tag name of an element, and nothing for any other node. -/
  tag : ν → Option String
  /-- Whether the node is a text node. -/
  isText : ν → Bool
  /-- The text of a node; it is only asked of text nodes. -/
  text : ν → Option String
  /-- The first child. -/
  child : ν → Option ν
  /-- The next sibling. -/
  next : ν → Option ν
  /-- Links cannot be followed for ever. -/
  finite : WellFounded fun b a => child a = some b ∨ next a = some b

namespace Tree

variable {ν : Type} (t : Tree ν)

/-- One step along the tree: to the first child or to the next sibling. -/
def Link (a b : ν) : Prop :=
  t.child a = some b ∨ t.next a = some b

/-- The node lies beyond the position, by one link or more. -/
def Ahead (position : Option ν) (n : ν) : Prop :=
  ∃ m, position = some m ∧ Relation.TransGen (fun b a => t.Link a b) n m

/-- The text that a text node shows to a pattern; other nodes show none. -/
def shownText (n : ν) : Option String :=
  if t.isText n then t.text n else none

/-! ### Moving ahead -/

theorem ahead_wellFounded : WellFounded (Relation.TransGen fun b a => t.Link a b) :=
  t.finite.transGen

variable {t}

theorem ahead_some {m n : ν} :
    t.Ahead (some m) n ↔ Relation.TransGen (fun b a => t.Link a b) n m :=
  ⟨fun ⟨_, h, hn⟩ => (Option.some.inj h).symm ▸ hn, fun h => ⟨m, rfl, h⟩⟩

theorem not_ahead_none {n : ν} : ¬ t.Ahead none n :=
  fun ⟨_, h, _⟩ => nomatch h

theorem ahead_child {m n : ν} (h : t.child m = some n) : t.Ahead (some m) n :=
  ahead_some.2 (.single (.inl h))

theorem ahead_next {m n : ν} (h : t.next m = some n) : t.Ahead (some m) n :=
  ahead_some.2 (.single (.inr h))

/-- What lies ahead of a node that lies ahead lies ahead. -/
theorem Ahead.trans {p : Option ν} {m n : ν} (h₁ : t.Ahead p m) (h₂ : t.Ahead (some m) n) :
    t.Ahead p n :=
  let ⟨k, hk, hm⟩ := h₁
  ⟨k, hk, (ahead_some.1 h₂).trans hm⟩

end Tree

end TreePattern
