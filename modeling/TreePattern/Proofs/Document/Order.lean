import Mathlib.Data.List.FinRange
import TreePattern.Proofs.Document.Forest

/-!
# Document order

A node comes before the nodes inside it, and these come before what is behind it. `Tree.visit` is
the walk in that order along the links of any tree, `Tree.siblings` the walk along one level, and
`Forest.preorder` is the same order on a forest, where a node is given by the forest that begins at
it. In the layout of a forest `Tree.visit` and `Forest.preorder` agree with the numbers of the
nodes, so the forest can be read off its layout.

* `Tree.fold_some`: what is computed at a node comes from what is computed inside and behind it.
* `Tree.siblings_head?`: on one level, what is left of the siblings tells the place.
* `Document.Holds.text`, `Document.Holds.element`: the first node of a forest that a table holds,
  with its links, and the forests these lead to.
* `Document.visit_layout`: the walk over a layout meets every node once, in the order of the numbers.
* `Document.forest_layout`: the forest read off a layout is the one that was laid out.
* `Forest.getElem?_layout`: the line of a layout for each node of the forest.
-/

namespace TreePattern

/-! ### Walking a tree -/

namespace Tree

variable {ν α : Type} (t : Tree ν)

/-- Computes something at a node from the same inside it and behind it, and gives `e` where there is
no node. -/
def foldFrom (f : ν → α → α → α) (e : α) (n : ν) : α :=
  f n
    (match _h : t.child n with
      | some m => foldFrom f e m
      | none => e)
    (match _h : t.next n with
      | some m => foldFrom f e m
      | none => e)
termination_by t.finite.wrap n
decreasing_by
  · exact .inl ‹_›
  · exact .inr ‹_›

/-- Computes something at a position from the same inside and behind the node there. -/
def fold (f : ν → α → α → α) (e : α) : Option ν → α
  | some n => t.foldFrom f e n
  | none => e

theorem fold_some (f : ν → α → α → α) (e : α) (n : ν) :
    t.fold f e (some n) = f n (t.fold f e (t.child n)) (t.fold f e (t.next n)) := by
  have linked : ∀ link : Option ν, (match _h : link with
      | some m => t.foldFrom f e m
      | none => e) = t.fold f e link := by
    intro link
    cases link with
    | none => rfl
    | some m => rfl
  rw [fold, foldFrom, ← linked, ← linked]

/-- The nodes met on a walk from a position: a node, then those inside it, then those behind it. -/
def visit : Option ν → List ν :=
  t.fold (fun n inside behind => n :: (inside ++ behind)) []

theorem visit_some (n : ν) : t.visit (some n) = n :: (t.visit (t.child n) ++ t.visit (t.next n)) :=
  t.fold_some _ _ n

end Tree

/-! ### The siblings from a position on -/

namespace Tree

variable {ν : Type} (t : Tree ν)

/-- A node and the siblings behind it. -/
def siblingsFrom (n : ν) : List ν :=
  match _h : t.next n with
  | none => [n]
  | some m => n :: siblingsFrom m
termination_by t.finite.wrap n
decreasing_by exact .inr ‹_›

/-- The node at a position and the siblings behind it. -/
def siblings : Option ν → List ν
  | none => []
  | some n => t.siblingsFrom n

variable {t} {position : Option ν} {before after nodes : List ν} {n : ν}

@[simp] theorem siblings_none : t.siblings none = [] := rfl

@[simp] theorem siblings_some : t.siblings (some n) = n :: t.siblings (t.next n) := by
  rw [siblings, siblingsFrom]
  split <;> rename_i h <;> rw [h] <;> rfl

/-- The first of the siblings is at the position. -/
@[simp] theorem head?_siblings : (t.siblings position).head? = position := by
  cases position with
  | none => rfl
  | some n => rw [siblings_some, List.head?_cons]

/-- Where there are no siblings there is no node. -/
theorem siblings_eq_nil (h : t.siblings position = []) : position = none := by
  cases position with
  | none => rfl
  | some n =>
    rw [siblings_some] at h
    cases h

/-- Where there are siblings, the first is at the position and the others are behind it. -/
theorem siblings_eq_cons (h : t.siblings position = n :: nodes) :
    position = some n ∧ t.siblings (t.next n) = nodes := by
  cases position with
  | none => cases h
  | some m =>
    rw [siblings_some] at h
    obtain ⟨rfl, behind⟩ := List.cons.inj h
    exact ⟨rfl, behind⟩

/-- The siblings from some place on are those that are left there. -/
theorem siblings_head? (h : t.siblings position = before ++ after) :
    t.siblings after.head? = after := by
  induction before generalizing position with
  | nil =>
    obtain rfl : t.siblings position = after := h
    rw [head?_siblings]
  | cons m before ih => exact ih (siblings_eq_cons h).2

/-- Behind each of the siblings come the remaining ones. -/
theorem exists_siblings_of_mem (h : t.siblings position = before ++ after) (hn : n ∈ before) :
    ∃ passed left, before = passed ++ n :: left ∧ t.siblings (some n) = n :: left ++ after := by
  obtain ⟨passed, left, rfl⟩ := List.append_of_mem hn
  refine ⟨passed, left, rfl, ?_⟩
  rw [List.append_assoc] at h
  exact siblings_head? h

end Tree

/-! ### A forest in a table -/

namespace Document

variable {d : Document} {F : Forest} {start : Nat}

/-- The nodes of the table from `start` on are those of the forest. -/
def Holds (d : Document) (start : Nat) (F : Forest) : Prop :=
  ∀ i, i < F.size → d.entries[start + i]? = (F.entries start)[i]?

/-- The position where a forest begins, if its first node has the number `start`. -/
def begin (d : Document) (start : Nat) (F : Forest) : Option d.Node :=
  (F.link start).bind d.node?

/-- A layout holds the forest that was laid out. -/
theorem holds_layout (F : Forest) : F.layout.Holds 0 F := by
  intro i _
  rw [Nat.zero_add]
  exact List.getElem?_toArray

/-- A forest with nodes begins at the node with its number, and this has its first line. -/
theorem Holds.exists_node (h : d.Holds start F) (hF : 0 < F.size) :
    ∃ n : d.Node, n.val = start ∧ d.begin start F = some n ∧
      (F.entries start).head? = some (entry n) := by
  have line : d.entries[start]? = (F.entries start).head? := by
    rw [List.head?_eq_getElem?]
    exact h 0 hF
  have inside : start < d.entries.size := by
    by_contra hn
    rw [Array.getElem?_eq_none (Nat.le_of_not_lt hn), eq_comm, List.head?_eq_none_iff,
      ← List.length_eq_zero_iff, Forest.length_entries] at line
    omega
  refine ⟨⟨start, inside⟩, rfl, ?_, ?_⟩
  · cases F with
    | nil => exact absurd hF (Nat.lt_irrefl 0)
    | text | element => exact node?_eq_some.2 rfl
  · rw [← line]
    exact Array.getElem?_eq_getElem inside

/-- The first node of a forest that begins with a text, and the forest behind it. -/
theorem Holds.text {s : String} {rest : Forest} (h : d.Holds start (.text s rest)) :
    ∃ n : d.Node, n.val = start ∧ d.begin start (.text s rest) = some n ∧ content n = .text s ∧
      d.tree.child n = none ∧ d.tree.next n = d.begin (start + 1) rest ∧
      d.Holds (start + 1) rest := by
  obtain ⟨n, hn, begins, line⟩ := h.exists_node (Nat.succ_pos _)
  have entry : entry n = ⟨.text s, none, rest.link (start + 1)⟩ := (Option.some.inj line).symm
  refine ⟨n, hn, begins, ?_, ?_, ?_, ?_⟩
  · exact congrArg Entry.content entry
  · exact congrArg (fun e => e.child.bind d.node?) entry
  · exact congrArg (fun e => e.next.bind d.node?) entry
  · intro i hi
    rw [show start + 1 + i = start + (i + 1) by omega]
    exact h (i + 1) (Nat.succ_lt_succ hi)

/-- The first node of a forest that begins with an element, and the forests inside it and behind
it. -/
theorem Holds.element {name : String} {inner rest : Forest}
    (h : d.Holds start (.element name inner rest)) :
    ∃ n : d.Node, n.val = start ∧ d.begin start (.element name inner rest) = some n ∧
      content n = .element name ∧
      d.tree.child n = d.begin (start + 1) inner ∧ d.Holds (start + 1) inner ∧
      d.tree.next n = d.begin (start + 1 + inner.size) rest ∧
      d.Holds (start + 1 + inner.size) rest := by
  obtain ⟨n, hn, begins, line⟩ := h.exists_node (Nat.succ_pos _)
  have entry : entry n =
      ⟨.element name, inner.link (start + 1), rest.link (start + 1 + inner.size)⟩ :=
    (Option.some.inj line).symm
  refine ⟨n, hn, begins, ?_, ?_, ?_, ?_, ?_⟩
  · exact congrArg Entry.content entry
  · exact congrArg (fun e => e.child.bind d.node?) entry
  · intro i hi
    have hi' : i + 1 < inner.size + rest.size + 1 := by omega
    rw [show start + 1 + i = start + (i + 1) by omega, h (i + 1) hi', Forest.entries,
      List.getElem?_cons_succ, List.getElem?_append_left (by rwa [Forest.length_entries])]
  · exact congrArg (fun e => e.next.bind d.node?) entry
  · intro i hi
    have hi' : inner.size + i + 1 < inner.size + rest.size + 1 := by omega
    rw [show start + 1 + inner.size + i = start + (inner.size + i + 1) by omega, h _ hi',
      Forest.entries, List.getElem?_cons_succ,
      List.getElem?_append_right (by rw [Forest.length_entries]; omega), Forest.length_entries,
      Nat.add_sub_cancel_left]

/-! ### The walk over a layout -/

/-- The walk over a forest that a table holds meets its nodes in the order of their numbers. -/
theorem Holds.visit_begin : ∀ {F : Forest} {start : Nat}, d.Holds start F →
    (d.tree.visit (d.begin start F)).map Fin.val = List.range' start F.size
  | .nil, _, _ => rfl
  | .text s rest, _, h => by
    obtain ⟨n, rfl, begins, -, inside, next, behind⟩ := h.text
    rw [begins, Tree.visit_some, inside, next, List.map_cons, List.map_append, behind.visit_begin]
    rfl
  | .element name inner rest, _, h => by
    obtain ⟨n, rfl, begins, -, child, inside, next, behind⟩ := h.element
    rw [begins, Tree.visit_some, child, next, List.map_cons, List.map_append, inside.visit_begin,
      behind.visit_begin, List.range'_append_1]
    rfl

theorem size_layout (F : Forest) : F.layout.size = F.size := by
  rw [size, Forest.layout, List.size_toArray, Forest.length_entries]

/-- The walk over a layout meets every node once, in the order of the numbers. -/
theorem visit_layout (F : Forest) : F.layout.tree.visit F.layout.rootNode = F.layout.nodes := by
  have visited : (F.layout.tree.visit F.layout.rootNode).map Fin.val = List.range' 0 F.size :=
    (holds_layout F).visit_begin
  have numbered : F.layout.nodes.map Fin.val = List.range F.layout.size :=
    List.map_coe_finRange_eq_range
  rw [size_layout, List.range_eq_range', ← visited] at numbered
  exact ((List.map_inj_right fun _ _ => Fin.ext).1 numbered).symm

/-! ### The forest of a document -/

/-- The forest that begins at a position of a document, read along the links. -/
def forestFrom (d : Document) : Option d.Node → Forest :=
  d.tree.fold (fun n inside behind =>
    match content n with
    | .text s => .text s behind
    | .element name => .element name inside behind) .nil

/-- The forest that a document stands for. -/
def forest (d : Document) : Forest := d.forestFrom d.rootNode

/-- A forest that a table holds is read off the table. -/
theorem Holds.forestFrom_begin : ∀ {F : Forest} {start : Nat}, d.Holds start F →
    d.forestFrom (d.begin start F) = F
  | .nil, _, _ => rfl
  | .text s rest, _, h => by
    obtain ⟨n, rfl, begins, here, -, next, behind⟩ := h.text
    rw [begins, forestFrom, Tree.fold_some, here, next]
    exact congrArg (Forest.text s) behind.forestFrom_begin
  | .element name inner rest, _, h => by
    obtain ⟨n, rfl, begins, here, child, inside, next, behind⟩ := h.element
    rw [begins, forestFrom, Tree.fold_some, here, child, next]
    exact congrArg₂ (Forest.element name) inside.forestFrom_begin behind.forestFrom_begin

/-- The forest read off a layout is the one that was laid out. -/
theorem forest_layout (F : Forest) : F.layout.forest = F :=
  (holds_layout F).forestFrom_begin

end Document

/-! ### The nodes of a forest -/

namespace Forest

/-- The nodes of a forest in document order: a node, then those inside it, then those behind it. A
node is given by the forest that begins at it. -/
def preorder : Forest → List Forest
  | nil => []
  | text s rest => text s rest :: rest.preorder
  | element name inner rest => element name inner rest :: (inner.preorder ++ rest.preorder)

@[simp] theorem length_preorder : ∀ F : Forest, F.preorder.length = F.size
  | nil => rfl
  | text _ rest => congrArg Nat.succ rest.length_preorder
  | element _ inner rest => by
    rw [preorder, List.length_cons, List.length_append, inner.length_preorder,
      rest.length_preorder]
    rfl

/-- The line of the table for a node is the first line for the forest that begins at the node. -/
theorem getElem?_entries : ∀ (F : Forest) {T : Forest} (start : Nat) {i : Nat},
    F.preorder[i]? = some T → (F.entries start)[i]? = (T.entries (start + i)).head?
  | nil, _, _, _, h => by
    cases h
  | text s rest, T, start, 0, h => by
    cases h
    rfl
  | text s rest, T, start, i + 1, h => by
    have behind := getElem?_entries rest (start + 1) h
    rw [entries, List.getElem?_cons_succ, behind, Nat.add_right_comm, Nat.add_assoc]
  | element name inner rest, T, start, 0, h => by
    cases h
    rfl
  | element name inner rest, T, start, i + 1, h => by
    rw [preorder, List.getElem?_cons_succ, List.getElem?_append, length_preorder] at h
    rw [entries, List.getElem?_cons_succ, List.getElem?_append, length_entries]
    by_cases hi : i < inner.size
    · rw [if_pos hi] at h ⊢
      rw [getElem?_entries inner (start + 1) h, Nat.add_right_comm, Nat.add_assoc]
    · rw [if_neg hi] at h ⊢
      have place : start + 1 + inner.size + (i - inner.size) = start + (i + 1) := by omega
      rw [getElem?_entries rest (start + 1 + inner.size) h, place]

/-- A forest has a first node unless it is empty. -/
theorem link_eq_ite (F : Forest) (start : Nat) :
    F.link start = if F = nil then none else some start := by
  cases F with
  | nil => rfl
  | text s rest => rw [link, if_neg Forest.noConfusion]
  | element name inner rest => rw [link, if_neg Forest.noConfusion]

/-- The line of a layout for a node of the forest. -/
theorem getElem?_layout {F T : Forest} {i : Nat} (h : F.preorder[i]? = some T) :
    F.layout.entries[i]? = (T.entries i).head? := by
  have line := F.getElem?_entries 0 h
  rw [Nat.zero_add] at line
  exact List.getElem?_toArray.trans line

end Forest

end TreePattern
