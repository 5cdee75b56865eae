import TreePattern.Proofs.Match.Sequences

/-!
# A sequence of tags is a scan

Matching a sequence of tags goes down along the continuations, with a longer chain at every tag, and
comes back merging chains; a failure at any tag is handed back through all that stand before it.
Here the same answers are had from a loop that goes over tags and siblings once, from left to right,
and keeps one chain (`Matcher.scan`). The loop stops at the first tag that does not fit, and if all
of them do, it looks whether a node is left.

* `Matcher.scan`: the loop.
* `ComesTo.scan_eq`: it answers with what the sequence comes to.
* `Matcher.walk_sequence_eq_scan`: it is what matching a sequence of tags amounts to, at any depth
  and whatever the tags were continued by.
-/

namespace TreePattern

/-- In a sequence it makes no difference what the patterns were continued by before. -/
theorem Pattern.sequence_map_withNext (continuation : Pattern → Pattern) (ps : List Pattern) :
    sequence (ps.map fun p => p.withNext (continuation p)) = sequence ps := by
  induction ps with
  | nil => rfl
  | cons p ps ih =>
    rw [List.map_cons, sequence_cons, sequence_cons, ih]
    cases p <;> rfl

/-! ### The loop -/

/-- Goes over tags and siblings side by side. Where a tag stands beside an element of its name, what
is nested in the tag is tried at the children, one level deeper. If it fits, its captures are kept,
though not the frames it pushed, and otherwise its outcome or error is the answer. Failures hand
back the chain of the start. -/
def Matcher.scan {ν : Type} (m : Matcher) (t : Tree ν) (depth : Nat) (start : Chain) :
    List TagPattern → List ν → Chain → Answer ν
  | [], [], kept => .ok (.matched none, kept)
  | [], n :: _, _ => .ok (.leftover n, start)
  | _ :: _, [], _ => .ok (.noMatch, start)
  | ⟨name, child, _⟩ :: items, n :: nodes, kept =>
    if t.tag n = some name then
      match m.walk t child (t.child n) kept (depth + 1) with
      | .error e => .error e
      | .ok (.matched _, found) => m.scan t depth start items nodes (kept.merge found)
      | .ok (outcome, _) => .ok (outcome, start)
    else .ok (.noMatch, start)

/-- What a verdict makes of two chains: a failure hands back the one, a fit records its captures in
the other. -/
def Verdict.handBack {ν : Type} (start kept : Chain) : Verdict ν → Answer ν
  | .error e => .error e
  | .noMatch => .ok (.noMatch, start)
  | .leftover tail => .ok (.leftover tail, start)
  | .matched value captures => .ok (.matched value, kept.record captures)

/-- Replaying a verdict, captures are recorded in the chain with all frames pushed. -/
theorem Verdict.replay_eq_handBack {ν : Type} (v : Verdict ν) (p : Pattern) (chain : Chain) :
    v.replay p chain = v.handBack chain (chain.pushed p.pushes) := by
  cases v <;> rfl

section scan

variable {ν : Type} {m : Matcher} {t : Tree ν} {items : List TagPattern} {position : Option ν}
  {depth : Nat} {v : Verdict ν}

/-- Tags one behind the other hand on no text. -/
theorem ComesTo.value_eq_none {limit : Nat} {value : Option String}
    {captures : List (String × String)} (hd : depth ≤ limit)
    (h : ComesTo t limit (.chained items .absent) position depth (.matched value captures)) :
    value = none := by
  cases items with
  | nil =>
    cases h with
    | atEnd => rfl
  | cons item items =>
    obtain ⟨-, hv⟩ | ⟨n, w, -, -, -, ⟨hw, rfl⟩ | ⟨_, _, w', -, -, ⟨hw, rfl⟩ | ⟨_, _, -, hv⟩⟩⟩ :=
      h.tag_inv hd
    · cases hv
    · cases hw
    · cases hw
    · cases hv
      rfl

/-- The loop answers with what the tags that are left come to. The induction is on these, for any
chain that is kept so far. -/
theorem ComesTo.scan_eq (hd : depth ≤ m.maxDepth)
    (h : ComesTo t m.maxDepth (.chained items .absent) position depth v) (start kept : Chain) :
    m.scan t depth start items (t.siblings position) kept = v.handBack start kept := by
  induction items generalizing position v kept with
  | nil =>
    cases position with
    | none =>
      obtain rfl := h.unique (.atEnd hd)
      rfl
    | some n =>
      obtain rfl := h.unique (.atNode hd)
      rw [Tree.siblings_some]
      rfl
  | cons item items ih =>
    obtain ⟨other, rfl⟩ | ⟨n, w, rfl, ht, hi, hw⟩ := h.tag_inv hd
    · cases position with
      | none => rfl
      | some n =>
        rw [Tree.siblings_some]
        exact if_neg (other n rfl)
    · rw [Tree.siblings_some]
      refine (if_pos ht).trans ?_
      rw [hi.walk_eq kept]
      obtain ⟨hm, rfl⟩ | ⟨value, captures, w', rfl, hr, hv⟩ := hw
      · -- what is nested does not fit
        cases v with
        | matched => cases hm
        | error | noMatch | leftover => rfl
      · dsimp only [Verdict.replay]
        rw [Chain.merge_record, ih hr]
        obtain ⟨hm, rfl⟩ | ⟨value', captures', rfl, rfl⟩ := hv
        · -- some tag further on does not fit
          cases v with
          | matched => cases hm
          | error | noMatch | leftover => rfl
        · obtain rfl := hr.value_eq_none hd
          dsimp only [Verdict.handBack]
          rw [Chain.record_append]

/-- Matching a sequence of tags is a scan over the siblings from left to right, unless it begins
beyond the limit; a run begins at depth zero, so there it always is. All tags stand at the depth of
the sequence. Of the frames that nested patterns push, those of the first tag stay. What the tags
were continued by before is of no influence. -/
theorem Matcher.walk_sequence_eq_scan (m : Matcher) (t : Tree ν) (items : List TagPattern)
    (position : Option ν) (chain : Chain) (depth : Nat) :
    let tags := items.map TagPattern.pattern
    let p := Pattern.sequence tags
    (m.walk t p position chain depth =
        if m.maxDepth < depth then .error (.depthLimitExceeded m.maxDepth)
        else m.scan t depth chain items (t.siblings position) (chain.pushed p.pushes)) ∧
      ∀ continuation : Pattern → Pattern,
        m.walk t (.sequence (tags.map fun tag => tag.withNext (continuation tag))) position chain
            depth =
          m.walk t p position chain depth := by
  intro tags p
  refine ⟨?_, fun continuation => by rw [Pattern.sequence_map_withNext]⟩
  by_cases hd : m.maxDepth < depth
  · rw [if_pos hd]
    exact walk_of_lt hd
  · rw [if_neg hd]
    have chained : p = .chained items .absent := Pattern.sequence_map_pattern items
    obtain ⟨v, hv⟩ := exists_comesTo t m.maxDepth p position depth
    rw [hv.walk_eq, Verdict.replay_eq_handBack]
    rw [chained] at hv
    exact (hv.scan_eq (Nat.le_of_not_lt hd) chain _).symm

end scan

end TreePattern
