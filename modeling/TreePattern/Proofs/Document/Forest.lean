import TreePattern.Document.Builder

/-!
# Forests and their layout

A document stands for an ordered forest. `Forest` is that forest as plain data, without numbers and
links, and `Forest.layout` is the one document it is kept as: the nodes are numbered in document
order, the first child of an element has the next number, and the next sibling of a node comes right
behind all that lies below the node. The builder never sees a forest. It is told to enter, to add
texts and to leave, and patches the link that belongs to the place it is at.

* `Forest.forward_entries`: the links of a layout lead further on and stay inside the table.
* `Forest.entries_add`: numbering from further on shifts all links and changes nothing else.
* `Forest.run_steps`: building a forest behind what there is appends its layout to the table, links
  the place it is put at to its first node, and leaves the open elements as they were.
* `Document.ofSteps_steps`: building a forest from nothing gives its layout.
-/

namespace TreePattern

/-- An ordered forest of elements and texts: it is empty, or has a first tree and a forest of the
trees behind it. -/
inductive Forest where
  /-- No tree at all. -/
  | nil
  /-- A text, and the forest behind it. -/
  | text (text : String) (rest : Forest)
  /-- An element with the forest inside it, and the forest behind it. -/
  | element (name : String) (inner rest : Forest)
  deriving DecidableEq

/-- The line with its links leading a number of places further. -/
def Document.Entry.shift (k : Nat) (e : Document.Entry) : Document.Entry :=
  { e with child := e.child.map (· + k), next := e.next.map (· + k) }

namespace Forest

open Document (Entry Content Place Builder Step)

/-- The number of nodes. -/
def size : Forest → Nat
  | nil => 0
  | text _ rest => rest.size + 1
  | element _ inner rest => inner.size + rest.size + 1

/-- The number of the first node, where nodes are numbered from `start`. -/
def link (start : Nat) : Forest → Option Nat
  | nil => none
  | text .. => some start
  | element .. => some start

/-- The nodes in document order, numbered from `start`, each with its links. -/
def entries : Forest → Nat → List Entry
  | nil, _ => []
  | text s rest, start => ⟨.text s, none, rest.link (start + 1)⟩ :: rest.entries (start + 1)
  | element name inner rest, start =>
    ⟨.element name, inner.link (start + 1), rest.link (start + 1 + inner.size)⟩ ::
      (inner.entries (start + 1) ++ rest.entries (start + 1 + inner.size))

/-- The steps that build a forest. -/
def steps : Forest → List Step
  | nil => []
  | text s rest => .text s :: rest.steps
  | element name inner rest => .enter name :: (inner.steps ++ .leave :: rest.steps)

/-! ### The layout of a forest -/

@[simp] theorem length_entries : ∀ (F : Forest) (start : Nat), (F.entries start).length = F.size
  | nil, _ => rfl
  | text _ rest, start => congrArg Nat.succ (length_entries rest (start + 1))
  | element _ inner rest, start => by
    rw [entries, List.length_cons, List.length_append, length_entries inner, length_entries rest]
    rfl

/-- Only a forest with nodes has a first one. -/
theorem link_eq_some {F : Forest} {start j : Nat} (h : F.link start = some j) :
    j = start ∧ 0 < F.size := by
  cases F with
  | nil => cases h
  | text | element =>
    cases h
    exact ⟨rfl, Nat.succ_pos _⟩

/-- The links of a layout lead further on and stay inside the table. -/
theorem forward_entries :
    ∀ {F : Forest} {start i j : Nat} {e : Entry}, (F.entries start)[i]? = some e →
      e.child = some j ∨ e.next = some j → start + i < j ∧ j < start + F.size
  | nil, _, _, _, _, he, _ => by cases he
  | text s rest, start, 0, j, e, he, hj => by
    cases he
    rcases hj with hj | hj
    · cases hj
    · have := link_eq_some hj
      simp only [size]
      omega
  | text s rest, start, i + 1, j, e, he, hj => by
    have := forward_entries (F := rest) he hj
    simp only [size]
    omega
  | element name inner rest, start, 0, j, e, he, hj => by
    cases he
    simp only [size]
    rcases hj with hj | hj
    · have := link_eq_some hj
      omega
    · have := link_eq_some hj
      omega
  | element name inner rest, start, i + 1, j, e, he, hj => by
    rw [entries, List.getElem?_cons_succ, List.getElem?_append, length_entries] at he
    simp only [size]
    split at he
    · have := forward_entries he hj
      omega
    · have := forward_entries he hj
      omega

/-- The document that a forest is kept as. -/
def layout (F : Forest) : Document where
  entries := (F.entries 0).toArray
  root := F.link 0
  forward := by
    intro i e j he hj
    rw [List.getElem?_toArray] at he
    have := forward_entries he hj
    rw [List.size_toArray, length_entries]
    omega
  root_lt := by
    intro j hj
    have := link_eq_some hj
    rw [List.size_toArray, length_entries]
    omega

/-! ### Numbering from further on -/

theorem link_add (k : Nat) (F : Forest) (start : Nat) :
    F.link (start + k) = (F.link start).map (· + k) := by
  cases F <;> rfl

/-- Numbering from further on shifts all links and changes nothing else. -/
theorem entries_add (k : Nat) :
    ∀ (F : Forest) (start : Nat), F.entries (start + k) = (F.entries start).map (Entry.shift k)
  | nil, _ => rfl
  | text s rest, start => by
    rw [entries, Nat.add_right_comm, link_add, entries_add k rest]
    rfl
  | element name inner rest, start => by
    have behind : start + k + 1 + inner.size = start + 1 + inner.size + k := by omega
    rw [entries, behind, Nat.add_right_comm, link_add k inner, link_add k rest,
      entries_add k inner, entries_add k rest, ← List.map_append]
    rfl

/-! ### Building a forest -/

/-- The table in which the place leads to a node, if there is one. -/
def linked (entries : Array Entry) (place : Place) : Option Nat → Array Entry
  | none => entries
  | some target => Document.relink entries place target

/-- The first top-level node once a node, if there is one, is put at the place. -/
def rooted (root : Option Nat) : Place → Option Nat → Option Nat
  | .first, target => target.or root
  | .below _, _ => root
  | .after _, _ => root

@[simp] theorem size_linked (entries : Array Entry) (place : Place) (target : Option Nat) :
    (linked entries place target).size = entries.size := by
  cases target with
  | none => rfl
  | some target => exact Document.size_relink entries place target

theorem modify_length_append (l r : List Entry) (e : Entry) (f : Entry → Entry) :
    (l ++ e :: r).modify l.length f = l ++ f e :: r :=
  List.modifyTailIdx_add (List.modifyHead f) 0 l (e :: r)

/-- Linking an element without children to its first child. -/
theorem toList_linked_below {entries : Array Entry} {l r : List Entry} {content : Content}
    {next : Option Nat} {i : Nat} (h : entries.toList = l ++ ⟨content, none, next⟩ :: r)
    (hi : l.length = i) (target : Option Nat) :
    (linked entries (.below i) target).toList = l ++ ⟨content, target, next⟩ :: r := by
  subst hi
  cases target with
  | none => exact h
  | some target =>
    rw [linked, Document.relink, Array.toList_modify, h, modify_length_append]

/-- Linking a node without a next sibling to its next sibling. -/
theorem toList_linked_after {entries : Array Entry} {l r : List Entry} {content : Content}
    {child : Option Nat} {i : Nat} (h : entries.toList = l ++ ⟨content, child, none⟩ :: r)
    (hi : l.length = i) (target : Option Nat) :
    (linked entries (.after i) target).toList = l ++ ⟨content, child, target⟩ :: r := by
  subst hi
  cases target with
  | none => exact h
  | some target =>
    rw [linked, Document.relink, Array.toList_modify, h, modify_length_append]

theorem length_linked (d : Document) (place : Place) (target : Option Nat) :
    (linked d.entries place target).toList.length = d.size := by
  rw [Array.length_toList, size_linked]
  rfl

/-- A new node stands last, and the place leads to it. -/
theorem toList_append (d : Document) (place : Place) (content : Content) :
    (d.append place content).entries.toList =
      (linked d.entries place (some d.size)).toList ++ [⟨content, none, none⟩] :=
  Array.toList_push

theorem size_append (d : Document) (place : Place) (content : Content) :
    (d.append place content).size = d.size + 1 := by
  rw [Document.size, ← Array.length_toList, toList_append, List.length_append,
    Array.length_toList, size_linked]
  rfl

/-- The first top-level node is set to a new node that is put there. -/
theorem root_append (d : Document) (place : Place) (content : Content) :
    (d.append place content).root = rooted d.root place (some d.size) := by
  cases place <;> rfl

theorem run_append (b : Builder) (first later : List Step) :
    b.run (first ++ later) = (b.run first).run later :=
  List.foldl_append

/-- What building a forest makes of a builder. -/
structure Built (F : Forest) (b b' : Builder) : Prop where
  /-- The open elements are the same. -/
  pending : b'.pending = b.pending
  /-- The place leads to the first node, and the layout stands behind the old table. -/
  entries : b'.document.entries.toList =
    (linked b.document.entries b.place (F.link b.document.size)).toList ++
      F.entries b.document.size
  /-- The first top-level node is set if the forest begins there. -/
  root : b'.document.root = rooted b.document.root b.place (F.link b.document.size)

/-- Building a forest adds its nodes. -/
theorem Built.size_eq {F : Forest} {b b' : Builder} (h : Built F b b') :
    b'.document.size = b.document.size + F.size := by
  have hl := congrArg List.length h.entries
  rw [List.length_append, length_entries, Array.length_toList, Array.length_toList,
    size_linked] at hl
  exact hl

/-- Building a text and then the forest behind it. -/
theorem Built.text {s : String} {rest : Forest} {b b' : Builder} (h : Built rest (b.text s) b') :
    Built (.text s rest) b b' := by
  have added := h.entries
  rw [show (b.text s).document = b.document.append b.place (.text s) from rfl,
    show (b.text s).place = .after b.document.size from rfl, size_append,
    toList_linked_after (toList_append ..) (length_linked ..), List.append_assoc] at added
  exact ⟨h.pending, added, h.root.trans (root_append ..)⟩

/-- Building an element, the forest inside it and then the forest behind it. -/
theorem Built.element {name : String} {inner rest : Forest} {b b' b'' : Builder}
    (hi : Built inner (b.enter name) b') (hr : Built rest b'.leave b'') :
    Built (.element name inner rest) b b'' := by
  have pending : b'.pending = .after b.document.size :: b.pending := hi.pending
  have left : b'.leave = ⟨b'.document, .after b.document.size, b.pending⟩ := by
    rw [Builder.leave, pending]
  have size := hi.size_eq
  have inside := hi.entries
  rw [show (b.enter name).document = b.document.append b.place (.element name) from rfl,
    size_append] at size inside
  rw [show (b.enter name).place = .below b.document.size from rfl,
    toList_linked_below (toList_append ..) (length_linked ..), List.append_assoc] at inside
  have added := hr.entries
  rw [left] at added
  rw [size, toList_linked_after inside (length_linked ..), List.append_assoc] at added
  refine ⟨?_, added, ?_⟩
  · rw [hr.pending, left]
  · have root := hr.root
    rw [left] at root
    exact root.trans (hi.root.trans (root_append ..))

/-- Building a forest behind what there is appends its layout to the table. -/
theorem run_steps : ∀ (F : Forest) (b : Builder), Built F b (b.run F.steps)
  | nil, b => by
    refine ⟨rfl, (List.append_nil _).symm, ?_⟩
    cases b.place <;> rfl
  | text s rest, b => (run_steps rest (b.text s)).text
  | element name inner rest, b => by
    have inside := run_steps inner (b.enter name)
    have behind := run_steps rest ((b.enter name).run inner.steps).leave
    have split : b.run (element name inner rest).steps =
        ((b.enter name).run inner.steps).leave.run rest.steps :=
      run_append (b.enter name) inner.steps (.leave :: rest.steps)
    rw [split]
    exact inside.element behind

end Forest

namespace Document

/-- Documents with the same table and the same first top-level node are the same. -/
theorem ext_entries {d d' : Document} (he : d.entries = d'.entries) (hr : d.root = d'.root) :
    d = d' := by
  cases d
  cases d'
  cases he
  cases hr
  rfl

/-- Building a forest from nothing gives its layout. -/
theorem ofSteps_steps (F : Forest) : ofSteps F.steps = F.layout := by
  have built := F.run_steps .new
  refine ext_entries (Array.ext' ?_) ?_
  · refine built.entries.trans ?_
    cases F <;> rfl
  · refine built.root.trans ?_
    exact Option.or_none

end Document

end TreePattern
