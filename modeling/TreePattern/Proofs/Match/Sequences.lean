import TreePattern.Proofs.Match.Nesting
import TreePattern.Proofs.Match.Siblings

/-!
# Sequences of tags along siblings

A sequence of tags is a tag whose continuation is the sequence of the others, so matching one goes
from a node to its next sibling and from a tag to its continuation, side by side. Here the two are
lists: items, which are tags with something nested in them, and nodes. Items fit along nodes if each
fits the node that stands beside it (`FitsAlong`). What a sequence comes to depends on whether its
items fit along the first siblings. If they do, it comes to what its end comes to behind these; if
they do not, to what the first item says that does not fit.

* `FitsAlong.map_tag`: the nodes have the names of the items.
* `FitsAlong.comesTo_of_matched`, `FitsAlong.comesTo_of_failed`: items that fit leave the say to the
  end of the sequence.
* `exists_comesTo_of_not_fitsAlong`: items that do not fit do not leave it to others.
-/

namespace TreePattern

/-- A pattern that begins with a tag. -/
structure TagPattern where
  /-- The name that the tag asks for. -/
  name : String
  /-- What is nested in the tag. -/
  child : Pattern
  /-- What the tag is continued by. -/
  next : Pattern

namespace TagPattern

/-- The pattern itself. -/
def pattern (item : TagPattern) : Pattern := .node (.tag item.name) item.child item.next

/-- A tag by itself. -/
def ofName (name : String) : TagPattern := ⟨name, .absent, .absent⟩

end TagPattern

namespace Pattern

variable {items : List TagPattern} {rest : Pattern}

/-- Tags one behind the other, and a pattern behind the last of them. -/
def chained (items : List TagPattern) (rest : Pattern) : Pattern :=
  items.foldr (fun item next => node (.tag item.name) item.child next) rest

@[simp] theorem chained_nil : chained [] rest = rest := rfl

@[simp] theorem chained_cons (item : TagPattern) :
    chained (item :: items) rest = node (.tag item.name) item.child (chained items rest) := rfl

/-- In a sequence, tags are continued by the sequence of what stands behind them. -/
theorem sequence_append (items : List TagPattern) (ps : List Pattern) :
    sequence (items.map TagPattern.pattern ++ ps) = chained items (sequence ps) := by
  induction items with
  | nil => rfl
  | cons item items ih =>
    rw [List.map_cons, List.cons_append, sequence_cons, ih]
    rfl

theorem sequence_map_pattern (items : List TagPattern) :
    sequence (items.map TagPattern.pattern) = chained items absent := by
  rw [← List.append_nil (items.map _), sequence_append]
  rfl

/-- A limit that allows for a sequence of tags allows for what is nested in each, a level below. -/
theorem allows_items {depth limit : Nat} (hd : depth + (chained items rest).nesting ≤ limit) :
    ∀ item ∈ items, depth + 1 + item.child.nesting ≤ limit := by
  induction items with
  | nil => exact List.forall_mem_nil _
  | cons item items ih =>
    exact List.forall_mem_cons.2 ⟨allows_child hd rfl, ih (allows_next hd)⟩

/-- The end of a sequence is no level below the items. -/
theorem nesting_le_chained : rest.nesting ≤ (chained items rest).nesting := by
  induction items with
  | nil => exact Nat.le_refl _
  | cons item items ih => exact Nat.le_trans ih nesting_next_le

end Pattern

/-! ### Items that fit along nodes -/

variable {ν : Type} {t : Tree ν} {limit depth : Nat} {items : List TagPattern}
  {window after nodes : List ν} {captures later : List (String × String)} {rest : Pattern}
  {position : Option ν} {v : Verdict ν}

/-- Items fit along nodes if there are as many of both, each node is an element of the name that the
item beside it asks for, and what is nested in the item fits the children of the node, at the depth
below. The captures of the items are collected in order. -/
inductive FitsAlong (t : Tree ν) (limit depth : Nat) :
    List TagPattern → List ν → List (String × String) → Prop where
  | nil : FitsAlong t limit depth [] [] []
  | cons {item n items nodes value captures later} (ht : t.tag n = some (TagPattern.name item))
      (hi : ComesTo t limit item.child (t.child n) (depth + 1) (.matched value captures))
      (h : FitsAlong t limit depth items nodes later) :
      FitsAlong t limit depth (item :: items) (n :: nodes) (captures ++ later)

namespace FitsAlong

/-- The nodes have the names of the items. -/
theorem map_tag (h : FitsAlong t limit depth items nodes captures) :
    nodes.map t.tag = items.map fun item => some item.name := by
  induction h with
  | nil => rfl
  | cons ht _ _ ih => rw [List.map_cons, List.map_cons, ht, ih]

theorem length_eq (h : FitsAlong t limit depth items nodes captures) :
    nodes.length = items.length := by
  rw [← List.length_map t.tag, h.map_tag, List.length_map]

/-- If the items fit along the first siblings and the end of the sequence fits behind them, the
sequence fits. -/
theorem comesTo_of_matched (h : FitsAlong t limit depth items window captures)
    (hd : depth ≤ limit) (hs : t.siblings position = window ++ after)
    (hr : ComesTo t limit rest after.head? depth (.matched none later)) :
    ComesTo t limit (.chained items rest) position depth (.matched none (captures ++ later)) := by
  induction h generalizing position with
  | nil =>
    obtain rfl : t.siblings position = after := hs
    rw [Tree.head?_siblings] at hr
    exact hr
  | cons ht hi _ ih =>
    obtain ⟨rfl, behind⟩ := Tree.siblings_eq_cons hs
    rw [List.append_assoc]
    exact .tagFits hd ht hi (ih behind)

/-- If the items fit along the first siblings and the end of the sequence does not fit behind them,
its outcome stands. -/
theorem comesTo_of_failed (h : FitsAlong t limit depth items window captures)
    (hd : depth ≤ limit) (hs : t.siblings position = window ++ after)
    (hr : ComesTo t limit rest after.head? depth v) (hv : v.isMatch = false) :
    ComesTo t limit (.chained items rest) position depth v := by
  induction h generalizing position with
  | nil =>
    obtain rfl : t.siblings position = after := hs
    rw [Tree.head?_siblings] at hr
    exact hr
  | cons ht hi _ ih =>
    obtain ⟨rfl, behind⟩ := Tree.siblings_eq_cons hs
    exact .tagNext hd ht hi (ih behind) hv

end FitsAlong

/-- If the items fit along no first siblings, the sequence does not fit: there is no match, or what
is nested in some item does not fit the children of a node of its name, and this outcome stands. -/
theorem exists_comesTo_of_not_fitsAlong (rest : Pattern) (hd : depth ≤ limit)
    (h : ∀ window after captures, t.siblings position = window ++ after →
      ¬ FitsAlong t limit depth items window captures) :
    ∃ v, ComesTo t limit (.chained items rest) position depth v ∧ (v = .noMatch ∨
      v.isMatch = false ∧ ∃ item ∈ items, ∃ n ∈ t.siblings position, t.tag n = some item.name ∧
        ComesTo t limit item.child (t.child n) (depth + 1) v) := by
  induction items generalizing position with
  | nil => exact absurd .nil (h [] (t.siblings position) [] rfl)
  | cons item items ih =>
    by_cases hother : ∀ n, position = some n → t.tag n ≠ some item.name
    · exact ⟨.noMatch, .tagOther hd hother, .inl rfl⟩
    · obtain ⟨n, rfl, ht⟩ : ∃ n, position = some n ∧ t.tag n = some item.name := by
        simpa using hother
      obtain ⟨w, hi⟩ := exists_comesTo t limit item.child (t.child n) (depth + 1)
      cases hw : w.isMatch with
      | false =>
        refine ⟨w, .tagChild hd ht hi hw, .inr ⟨hw, item, List.mem_cons_self, n, ?_, ht, hi⟩⟩
        rw [Tree.siblings_some]
        exact List.mem_cons_self
      | true =>
        obtain ⟨value, captures, rfl⟩ : ∃ value captures, w = .matched value captures := by
          cases w <;> simp_all [Verdict.isMatch]
        have unfit : ∀ window after later, t.siblings (t.next n) = window ++ after →
            ¬ FitsAlong t limit depth items window later := by
          intro window after later hs hf
          refine h (n :: window) after (captures ++ later) ?_ (.cons ht hi hf)
          rw [Tree.siblings_some, hs, List.cons_append]
        obtain ⟨v, hr, cause⟩ := ih unfit
        have hv : v.isMatch = false := by
          rcases cause with rfl | ⟨hv, -⟩
          · rfl
          · exact hv
        refine ⟨v, .tagNext hd ht hi hr hv, cause.imp_right ?_⟩
        rintro ⟨-, item', hitem, k, hk, found⟩
        refine ⟨hv, item', List.mem_cons_of_mem _ hitem, k, ?_, found⟩
        rw [Tree.siblings_some]
        exact List.mem_cons_of_mem _ hk

end TreePattern
