import TreePattern.Proofs.Document.Order
import TreePattern.Proofs.Match.Verdict

/-!
# Searching along siblings

From a position on, the nodes of one level are a list (`Tree.siblings`), and every place of this
level is known by the siblings that are left from there. Skipping tries its nested pattern at one
place after the other, the place behind the last sibling included. What it comes to is said here
for the whole search: it passes over places where the nested pattern fails, and stops at the first
one where it does not.

* `ComesTo.skipUntil_stop`: skipping comes to what its nested pattern comes to at the first place
  where that is no failure.
* `ComesTo.skipUntil_exhausted`: it does not fit if its nested pattern fails at every place.
-/

namespace TreePattern

/-! ### Skipping along the siblings -/

section skipping

variable {ν : Type} {t : Tree ν} {limit depth : Nat} {child next : Pattern} {position : Option ν}
  {v : Verdict ν}

/-- The pattern is tried at the position to no avail. -/
def FailsAt (t : Tree ν) (limit : Nat) (p : Pattern) (position : Option ν) (depth : Nat) : Prop :=
  ∃ v, ComesTo t limit p position depth v ∧ v.isFailure = true

/-- The empty pattern fails where there is a node. -/
theorem FailsAt.absent {n : ν} (hd : depth ≤ limit) : FailsAt t limit .absent (some n) depth :=
  ⟨_, .atNode hd, rfl⟩

namespace ComesTo

/-- Skipping comes to what its nested pattern comes to at the first place where that is no
failure. -/
theorem skipUntil_stop {before after : List ν} (hd : depth ≤ limit)
    (hs : t.siblings position = before ++ after)
    (passed : ∀ n ∈ before, FailsAt t limit child (some n) (depth + 1))
    (h : ComesTo t limit child after.head? (depth + 1) v) (hv : v.isFailure = false) :
    ComesTo t limit (.node .skipUntil child next) position depth v := by
  induction before generalizing position with
  | nil =>
    obtain rfl : t.siblings position = after := hs
    rw [Tree.head?_siblings] at h
    exact .skipStop hd h hv
  | cons n before ih =>
    obtain ⟨rfl, behind⟩ := Tree.siblings_eq_cons hs
    obtain ⟨w, hw, failed⟩ := passed n List.mem_cons_self
    exact .skipOn hd hw failed (ih behind fun k hk => passed k (List.mem_cons_of_mem _ hk))

/-- Skipping over nothing fits everywhere. -/
theorem skipUntil_absent (hd : depth + 1 ≤ limit) :
    ComesTo t limit (.node .skipUntil .absent next) position depth (.matched none []) := by
  have whole : t.siblings position = t.siblings position ++ [] := (List.append_nil _).symm
  refine .skipUntil_stop (Nat.le_of_succ_le hd) whole ?_ (.atEnd hd) rfl
  exact fun n _ => .absent hd

/-- Skipping does not fit if its nested pattern fails at all siblings and behind the last. -/
theorem skipUntil_exhausted (hd : depth ≤ limit)
    (h : ∀ before after, t.siblings position = before ++ after →
      FailsAt t limit child after.head? (depth + 1)) :
    ComesTo t limit (.node .skipUntil child next) position depth .noMatch := by
  induction hs : t.siblings position generalizing position with
  | nil =>
    obtain ⟨w, hw, failed⟩ := h [] [] hs
    obtain rfl := Tree.siblings_eq_nil hs
    exact .skipEnd hd hw failed
  | cons n nodes ih =>
    obtain ⟨w, hw, failed⟩ := h [] (n :: nodes) hs
    obtain ⟨rfl, behind⟩ := Tree.siblings_eq_cons hs
    refine .skipOn hd hw failed (ih (fun before after hs' => ?_) behind)
    refine h (n :: before) after ?_
    rw [Tree.siblings_some, hs', List.cons_append]

end ComesTo

end skipping

end TreePattern
