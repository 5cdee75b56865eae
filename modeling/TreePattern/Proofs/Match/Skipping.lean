import TreePattern.Document.Builder
import TreePattern.Proofs.Match.Nesting
import TreePattern.Proofs.Match.Siblings

/-!
# Skipping is a search for the first success

Skipping hands nothing on from one attempt to the next: each is made from the chain that skipping
was given, one level deeper, at one place of the level after the other. So it can be described by
the answers of its nested pattern alone. List the places of the level (`Tree.places`), take the
answer at each of them, and the first that is a fit or an error is the answer of skipping. Both
kinds of failure are passed over alike, a node left over too.

Skipping over skipping begins the inner search again at every place. That is of no use, as a search
that has failed from one place fails from all later ones, and so it amounts to the inner search.

* `Matcher.walk_skipUntil_turn`: one attempt.
* `Matcher.walk_skipUntil_eq_find?`: all of them, without the loop.
* `Matcher.walk_skipUntil_first_success`: what follows for single places and for skipping over
  nothing, and `Matcher.skipUntil_absent_cutOff`: where that is cut off.
* `ComesTo.skipUntil_raised`, `Matcher.run_skipUntil_skipUntil`: skipping over skipping.
-/

namespace TreePattern

/-! ### The places of a level -/

namespace Tree

variable {ν : Type} (t : Tree ν)

/-- The places of a level from a position on: at each of the siblings, one after the other, and
last, once, where no node is any more. -/
def places (position : Option ν) : List (Option ν) :=
  (t.siblings position).map some ++ [none]

@[simp] theorem places_none : t.places none = [none] := by
  simp [places]

@[simp] theorem places_some (n : ν) : t.places (some n) = some n :: t.places (t.next n) := by
  simp [places]

end Tree

/-- Whether skipping takes an answer of its nested pattern for its own: a fit or an error. -/
def Answer.endsSkipping {ν : Type} : Answer ν → Bool
  | .error _ => true
  | .ok (outcome, _) => outcome.isMatch

namespace Matcher

variable {ν : Type} {m : Matcher} {t : Tree ν} {q next : Pattern} {position : Option ν}
  {chain : Chain} {depth : Nat}

/-! ### The search -/

/-- A fit or an error ends skipping. After a failure it goes on behind the node, and does not match
where there is none. Beyond the limit this is so too, as the attempt reports it just the same. -/
theorem walk_skipUntil_turn :
    m.walk t (.node .skipUntil q next) position chain depth =
      if (m.walk t q position chain (depth + 1)).endsSkipping then
        m.walk t q position chain (depth + 1)
      else match position with
        | none => .ok (.noMatch, chain)
        | some n => m.walk t (.node .skipUntil q next) (t.next n) chain depth := by
  by_cases hd : depth ≤ m.maxDepth
  · rw [walk_skipUntil hd]
    rcases m.walk t q position chain (depth + 1) with e | ⟨outcome, c⟩
    · rfl
    · cases outcome <;> rfl
  · have here : m.maxDepth < depth := Nat.lt_of_not_le hd
    have below : m.maxDepth < depth + 1 := Nat.lt_succ_of_lt here
    rw [walk_of_lt here, walk_of_lt below]
    rfl

/-- Skipping answers as its nested pattern does at the first place where that is a fit or an error,
and there is no match if there is no such place. The induction is on the siblings that are left. -/
theorem walk_skipUntil_eq_find? :
    m.walk t (.node .skipUntil q next) position chain depth =
      (((t.places position).map fun place => m.walk t q place chain (depth + 1)).find?
        Answer.endsSkipping).getD (.ok (.noMatch, chain)) := by
  induction hs : t.siblings position generalizing position with
  | nil =>
    obtain rfl := Tree.siblings_eq_nil hs
    rw [walk_skipUntil_turn, Tree.places_none, List.map_singleton, List.find?_singleton]
    split <;> rfl
  | cons n nodes ih =>
    obtain ⟨rfl, behind⟩ := Tree.siblings_eq_cons hs
    rw [walk_skipUntil_turn, Tree.places_some, List.map_cons, List.find?_cons]
    cases (m.walk t q (some n) chain (depth + 1)).endsSkipping with
    | true => rfl
    | false => exact ih behind

/-- If the nested pattern fails at all siblings, what it answers where no node is decides. -/
theorem walk_skipUntil_of_siblings_fail
    (h : ∀ n ∈ t.siblings position,
      (m.walk t q (some n) chain (depth + 1)).endsSkipping = false) :
    m.walk t (.node .skipUntil q next) position chain depth =
      m.walk t (.node .skipUntil q next) none chain depth := by
  induction hs : t.siblings position generalizing position with
  | nil =>
    obtain rfl := Tree.siblings_eq_nil hs
    rfl
  | cons n nodes ih =>
    obtain ⟨rfl, behind⟩ := Tree.siblings_eq_cons hs
    rw [Tree.siblings_some] at h
    obtain ⟨here, later⟩ := List.forall_mem_cons.1 h
    rw [walk_skipUntil_turn, here]
    exact ih later behind

/-- Skipping over nothing fits everywhere, if the limit allows for the level of its attempts. -/
theorem walk_skipUntil_absent :
    m.walk t (.node .skipUntil .absent next) position chain depth =
      if depth < m.maxDepth then .ok (.matched none, chain)
      else .error (.depthLimitExceeded m.maxDepth) := by
  by_cases hd : depth + 1 ≤ m.maxDepth
  · have fits : ComesTo t m.maxDepth (.node .skipUntil .absent next) position depth
        (.matched none []) := .skipUntil_absent hd
    exact (fits.walk_eq chain).trans (if_pos hd).symm
  · have below : m.maxDepth < depth + 1 := Nat.lt_of_not_le hd
    rw [walk_skipUntil_turn, walk_of_lt below]
    exact (if_neg hd).symm

/-! ### First success -/

/-- Skipping is a search for the first success, and it has no memory. At any depth, it answers as
its nested pattern does one level deeper, and from the same chain, at the first place of the level
where that is a fit or an error; without such a place there is no match, and the chain is as it was.

So a node left over at a place only moves the search on. The place behind the last sibling comes
last: it decides when all siblings fail. And skipping over nothing fits along all siblings, if the
limit allows for the level of its attempts. -/
theorem walk_skipUntil_first_success (m : Matcher) (t : Tree ν) (q next : Pattern)
    (position : Option ν) (chain : Chain) (depth : Nat) :
    let attempt (place : Option ν) : Answer ν := m.walk t q place chain (depth + 1)
    let skip (p : Pattern) (place : Option ν) : Answer ν :=
      m.walk t (.node .skipUntil p next) place chain depth
    skip q position = (((t.places position).map attempt).find? Answer.endsSkipping).getD
        (.ok (.noMatch, chain)) ∧
      (∀ n k c, attempt (some n) = .ok (.leftover k, c) → skip q (some n) = skip q (t.next n)) ∧
      ((∀ n ∈ t.siblings position, (attempt (some n)).endsSkipping = false) →
        skip q position =
          if (attempt none).endsSkipping then attempt none else .ok (.noMatch, chain)) ∧
      skip .absent position =
        if depth < m.maxDepth then .ok (.matched none, chain)
        else .error (.depthLimitExceeded m.maxDepth) := by
  intro attempt skip
  refine ⟨walk_skipUntil_eq_find?, fun n k c h => ?_, fun fails => ?_, walk_skipUntil_absent⟩
  · have passed : (attempt (some n)).endsSkipping = false := by
      rw [h]
      rfl
    exact walk_skipUntil_turn.trans (if_neg (Bool.eq_false_iff.1 passed))
  · exact (walk_skipUntil_of_siblings_fail fails).trans walk_skipUntil_turn

/-- In the first item a text is left over where an empty item is looked for, so the search goes on
to the second, where it ends. For a text that stands nowhere it comes to the end. -/
theorem walk_skipUntil_first_success_list_items :
    let d := Document.ofSteps [.enter "li", .text "a", .leave, .enter "li"]
    let m := Matcher.mk 2
    let item := Pattern.ofConstruct (.tag "li")
    let other := Pattern.ofConstruct (.text "b")
    m.walk d.tree item d.rootNode .new 1 = .ok (.leftover ⟨1, by decide⟩, .new) ∧
      m.walk d.tree (.node .skipUntil item .absent) d.rootNode .new 0 =
        .ok (.matched none, .new) ∧
      (∀ n ∈ d.tree.siblings d.rootNode,
        (m.walk d.tree other (some n) .new 1).endsSkipping = false) ∧
      m.walk d.tree (.node .skipUntil other .absent) d.rootNode .new 0 = .ok (.noMatch, .new) := by
  intro d m item other
  have left_over : ComesTo d.tree 2 item d.rootNode 1 (.leftover ⟨1, by decide⟩) :=
    .tagChild (by decide) rfl (.atNode (by decide)) rfl
  have fits : ComesTo d.tree 2 item (some ⟨2, by decide⟩) 1 (.matched none ([] ++ [])) :=
    .tagFits (by decide) rfl (.atEnd (by decide)) (.atEnd (by decide))
  have first : m.walk d.tree item d.rootNode .new 1 = .ok (.leftover ⟨1, by decide⟩, .new) :=
    left_over.walk_eq .new
  have found : ComesTo d.tree 2 (.node .skipUntil item .absent) (some ⟨2, by decide⟩) 0
      (.matched none ([] ++ [])) :=
    .skipStop (by decide) fits rfl
  have nowhere (n : d.Node) (text : String) (hn : d.tree.shownText n = some text) :
      (text == "b") = false := by
    have shown : ∀ n : d.Node, d.tree.shownText n = none ∨ d.tree.shownText n = some "a" := by
      decide
    rcases shown n with h | h
    · cases h.symm.trans hn
    · cases h.symm.trans hn
      rfl
  have unfit (place : Option d.Node) :
      m.walk d.tree other place .new 1 = .ok (.noMatch, .new) :=
    ComesTo.walk_eq (.leafFails (by decide) rfl fun n text _ hn => nowhere n text hn) .new
  have passed (place : Option d.Node) :
      (m.walk d.tree other place .new 1).endsSkipping = false :=
    congrArg Answer.endsSkipping (unfit place)
  obtain ⟨-, on, -, -⟩ :=
    walk_skipUntil_first_success m d.tree item .absent d.rootNode .new 0
  obtain ⟨-, -, last, -⟩ :=
    walk_skipUntil_first_success m d.tree other .absent d.rootNode .new 0
  refine ⟨first, (on _ _ _ first).trans (found.walk_eq .new), fun n _ => passed (some n), ?_⟩
  exact (last fun n _ => passed (some n)).trans (if_neg (Bool.eq_false_iff.1 (passed none)))

/-- Where the limit does not allow for the level of its attempts, not even skipping over nothing
fits: it ends in an error at the first sibling. -/
theorem skipUntil_absent_cutOff :
    let d := Document.ofSteps [.text "a"]
    (Matcher.mk 0).run d.tree (.ofConstruct .skipUntil) d.rootNode .new =
        .error (.depthLimitExceeded 0) ∧
      ¬ ∃ value c, (Matcher.mk 0).run d.tree (.ofConstruct .skipUntil) d.rootNode .new =
        .ok (.matched value, c) := by
  intro d
  have cutOff : (Matcher.mk 0).run d.tree (.ofConstruct .skipUntil) d.rootNode .new =
      .error (.depthLimitExceeded 0) := walk_skipUntil_absent
  refine ⟨cutOff, ?_⟩
  rintro ⟨value, c, fits⟩
  cases cutOff.symm.trans fits

end Matcher

/-! ### Skipping over skipping -/

section twice

variable {ν : Type} {t : Tree ν} {limit depth : Nat} {q next : Pattern} {position : Option ν}
  {v : Verdict ν}

/-- Skipping over skipping comes to what skipping alone comes to at a limit smaller by one. At the
first place the inner search has the say unless it fails. Then it fails behind that place too, which
is where the outer search goes on. -/
theorem ComesTo.skipUntil_raised (next' : Pattern) (hd : depth ≤ limit)
    (h : ComesTo t limit (.node .skipUntil q next) position depth v) :
    ComesTo t (limit + 1) (.node .skipUntil (.node .skipUntil q next) next') position depth
      v.raised := by
  have hd' : depth ≤ limit + 1 := Nat.le_succ_of_le hd
  cases hf : v.isFailure with
  | false => exact .skipStop hd' h.raised (by rw [Verdict.isFailure_raised, hf])
  | true =>
    have failed : v.raised.isFailure = true := by rw [Verdict.isFailure_raised, hf]
    induction hs : t.siblings position generalizing position with
    | nil =>
      obtain rfl := Tree.siblings_eq_nil hs
      obtain ⟨w, -, ⟨stopped, rfl⟩ | ⟨-, ⟨-, rfl⟩ | ⟨n, at_node, -⟩⟩⟩ := h.skipUntil_inv hd
      · cases hf.symm.trans stopped
      · exact .skipEnd hd' h.raised failed
      · cases at_node
    | cons n nodes ih =>
      obtain ⟨rfl, behind⟩ := Tree.siblings_eq_cons hs
      obtain ⟨w, -, ⟨stopped, rfl⟩ | ⟨-, ⟨at_end, -⟩ | ⟨k, here, later⟩⟩⟩ := h.skipUntil_inv hd
      · cases hf.symm.trans stopped
      · cases at_end
      · cases here
        exact .skipOn hd' h.raised failed (ih later behind)

/-- Skipping over skipping is skipping, whatever the two are continued by: with one level more
allowed, it answers alike from every chain. Only the limit reported by an error is the greater
one. -/
theorem Matcher.run_skipUntil_skipUntil (t : Tree ν) (q next next' : Pattern)
    (position : Option ν) (chain : Chain) (limit : Nat) :
    (Matcher.mk (limit + 1)).run t (.node .skipUntil (.node .skipUntil q next) next') position
        chain =
      ((Matcher.mk limit).run t (.node .skipUntil q next) position chain).mapError
        MatchError.raised := by
  obtain ⟨v, hv, run_eq⟩ :=
    (Matcher.mk limit).exists_run_eq_replay t (.node .skipUntil q next) position
  have twice := hv.skipUntil_raised next' (Nat.zero_le limit)
  rw [run_eq]
  refine (ComesTo.walk_eq (m := ⟨limit + 1⟩) twice chain).trans ?_
  cases v <;> rfl

end twice

end TreePattern
