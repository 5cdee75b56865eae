import TreePattern.Document.Builder
import TreePattern.Proofs.Match.Nesting

/-!
# Where a nested pattern is missed

A repeating construct, a scope and a binding have nothing to apply without a nested pattern, and a
matcher that comes to such a hole gives up. Patterns may have holes that no matcher comes to: nobody
looks below a construct for single text nodes, or at the continuation of anything but a tag.
`Pattern.Consults` says of the pattern alone which of its slots are looked at, and a pattern is
complete if there is no hole among these. The searches come to a hole, if at all, in any of their
turns, so nothing can be said about when it is found; but whatever is found was there.

* `Pattern.complete_node_iff`: a construct is complete if it has what it needs, and what it looks at
  is complete.
* `ComesTo.errsWith`: an error is the limit, and then the pattern nests deeper than it allows, or a
  hole that is looked at.
* `Matcher.run_misses_only_holes`: what this means for runs; complete patterns make none of them
  fail.
-/

namespace TreePattern

namespace Pattern

/-! ### What is looked at -/

/-- The slots of a pattern that a matcher may look at, by what is in them: the pattern itself, what
is nested in a construct that is looked at and is none for single text nodes, and what continues a
tag that is looked at. -/
inductive Consults (p : Pattern) : Pattern → Prop where
  | root : Consults p p
  | child {construct : Construct} {child next : Pattern}
      (h : Consults p (.node construct child next)) (hc : construct.accepts? = none) :
      Consults p child
  | next {name : String} {child next : Pattern} (h : Consults p (.node (.tag name) child next)) :
      Consults p next

/-- No construct that is looked at lacks a nested pattern that it needs. -/
def Complete (p : Pattern) : Prop :=
  ∀ construct next, p.Consults (.node construct .absent next) → construct.needsInner = false

variable {p q r child next : Pattern} {construct : Construct}

/-- What is looked at in a slot that is looked at is looked at. -/
theorem Consults.trans (h₁ : p.Consults q) (h₂ : q.Consults r) : p.Consults r := by
  induction h₂ with
  | root => exact h₁
  | child _ hc ih => exact ih.child hc
  | next _ ih => exact ih.next

theorem consults_absent_iff : absent.Consults q ↔ q = absent := by
  constructor
  · intro h
    induction h with
    | root => rfl
    | child _ _ ih | next _ ih => cases ih
  · rintro rfl
    exact .root

/-- A construct is looked at itself, and so is what it looks at in its slots. -/
theorem consults_node_iff :
    (node construct child next).Consults q ↔ q = node construct child next ∨
      construct.accepts? = none ∧ child.Consults q ∨
      (∃ name, construct = .tag name) ∧ next.Consults q := by
  constructor
  · intro h
    induction h with
    | root => exact .inl rfl
    | child _ hc ih =>
      rcases ih with same | ⟨hp, inner⟩ | ⟨ht, rest⟩
      · cases same
        exact .inr (.inl ⟨hc, .root⟩)
      · exact .inr (.inl ⟨hp, inner.child hc⟩)
      · exact .inr (.inr ⟨ht, rest.child hc⟩)
    | next _ ih =>
      rcases ih with same | ⟨hp, inner⟩ | ⟨ht, rest⟩
      · cases same
        exact .inr (.inr ⟨⟨_, rfl⟩, .root⟩)
      · exact .inr (.inl ⟨hp, inner.next⟩)
      · exact .inr (.inr ⟨ht, rest.next⟩)
  · rintro (rfl | ⟨hc, inner⟩ | ⟨⟨name, rfl⟩, rest⟩)
    · exact .root
    · exact (Consults.root.child hc).trans inner
    · exact Consults.root.next.trans rest

/-! ### Complete patterns -/

theorem complete_absent : absent.Complete := by
  intro construct next h
  cases consults_absent_iff.1 h

/-- A construct is complete if it has the nested pattern it needs, and what it looks at is
complete. -/
theorem complete_node_iff :
    (node construct child next).Complete ↔
      (construct.needsInner = true → child.isAbsent = false) ∧
      (construct.accepts? = none → child.Complete) ∧
      ((∃ name, construct = .tag name) → next.Complete) := by
  constructor
  · intro h
    refine ⟨fun hn => ?_, fun hc construct' next' inner => ?_, fun ht construct' next' rest => ?_⟩
    · cases child with
      | absent =>
        have hole := h construct next .root
        simp [hn] at hole
      | node => rfl
    · exact h construct' next' (consults_node_iff.2 (.inr (.inl ⟨hc, inner⟩)))
    · exact h construct' next' (consults_node_iff.2 (.inr (.inr ⟨ht, rest⟩)))
  · rintro ⟨has, inner, rest⟩ construct' next' h
    rcases consults_node_iff.1 h with same | ⟨hc, h⟩ | ⟨ht, h⟩
    · cases same
      apply Bool.eq_false_iff.2
      intro hn
      have present := has hn
      simp [isAbsent] at present
    · exact inner hc construct' next' h
    · exact rest ht construct' next' h

theorem Complete.inner (hp : (node construct child next).Complete)
    (hc : construct.accepts? = none) : child.Complete :=
  (complete_node_iff.1 hp).2.1 hc

theorem Complete.rest {name : String} (hp : (node (.tag name) child next).Complete) :
    next.Complete :=
  (complete_node_iff.1 hp).2.2 ⟨name, rfl⟩

/-- A complete construct has the nested pattern it needs. -/
theorem Complete.has_child (hp : (node construct child next).Complete)
    (hc : construct.needsInner = true) : child.isAbsent = false :=
  (complete_node_iff.1 hp).1 hc

/-- Whether a pattern is complete, found by going through what is looked at. -/
def isComplete : Pattern → Bool
  | absent => true
  | node (.text _) _ _ => true
  | node (.regex _) _ _ => true
  | node (.tag _) child next => child.isComplete && next.isComplete
  | node .skipUntil child _ => child.isComplete
  | node .repetition child _ => !child.isAbsent && child.isComplete
  | node .scope child _ => !child.isAbsent && child.isComplete
  | node (.bind _) child _ => !child.isAbsent && child.isComplete

theorem isComplete_iff : ∀ p : Pattern, p.isComplete = true ↔ p.Complete
  | absent => ⟨fun _ => complete_absent, fun _ => rfl⟩
  | node construct child next => by
    have inner := isComplete_iff child
    have rest := isComplete_iff next
    rw [complete_node_iff]
    cases construct <;>
      simp [isComplete, inner, rest, Construct.needsInner, Construct.accepts?]

instance : DecidablePred Complete := fun p => decidable_of_iff _ p.isComplete_iff

end Pattern

/-! ### What errors are about -/

/-- What a pattern may come to for an error, from a depth on: the limit, if the pattern nests deeper
than it allows, and a nested pattern that is missing where one is looked for. -/
inductive Pattern.ErrsWith (p : Pattern) (limit depth : Nat) : MatchError → Prop where
  | tooDeep (h : limit < depth + p.nesting) : ErrsWith p limit depth (.depthLimitExceeded limit)
  | hole {construct : Construct} {next : Pattern} (h : p.Consults (.node construct .absent next))
      (hc : construct.needsInner = true) :
      ErrsWith p limit depth (.missingInner construct.kindName)

namespace Pattern.ErrsWith

variable {child next : Pattern} {limit depth : Nat} {e : MatchError}

/-- A construct errs as what is nested in it does one level deeper. -/
theorem of_child {construct : Construct} (h : child.ErrsWith limit (depth + 1) e)
    (hc : construct.accepts? = none) : (node construct child next).ErrsWith limit depth e := by
  cases h with
  | tooDeep h =>
    have below : child.nesting < (node construct child next).nesting := nesting_child_lt hc
    exact .tooDeep (by omega)
  | hole h hn => exact .hole ((Consults.root.child hc).trans h) hn

/-- A tag errs as its continuation does on the same level. -/
theorem of_next {name : String} (h : next.ErrsWith limit depth e) :
    (node (.tag name) child next).ErrsWith limit depth e := by
  cases h with
  | tooDeep h =>
    have behind : next.nesting ≤ (node (.tag name) child next).nesting := nesting_next_le
    exact .tooDeep (by omega)
  | hole h hn => exact .hole (Consults.root.next.trans h) hn

end Pattern.ErrsWith

section errors

variable {ν : Type} {t : Tree ν} {limit : Nat} {p : Pattern} {position : Option ν} {depth : Nat}
  {v : Verdict ν} {e : MatchError}

/-- An error is the limit or a hole. The searches hand on the error of the attempt where it was met,
and an attempt is made with the nested pattern. -/
theorem ComesTo.errsWith (h : ComesTo t limit p position depth v) (hv : v = .error e) :
    p.ErrsWith limit depth e := by
  induction h with
  | tooDeep h =>
    cases hv
    exact .tooDeep (by omega)
  | missing _ hc =>
    cases hv
    exact .hole .root hc
  | atEnd | atNode | leafFits | leafFails | skipEnd | tagOther | tagFits => cases hv
  | skipStop _ _ _ ih => exact (ih hv).of_child rfl
  | skipOn _ _ _ _ _ ih => exact ih hv
  | repeatStop _ _ _ _ ih => exact (ih hv).of_child rfl
  | repeatOn _ _ _ _ _ ih => exact ih hv
  | tagChild _ _ _ _ ih => exact (ih hv).of_child rfl
  | tagNext _ _ _ _ _ _ ih => exact (ih hv).of_next
  | scope _ _ _ ih => exact (ih hv).of_child rfl
  | bind _ _ _ ih => exact (ih (Verdict.capture_eq_error.1 hv)).of_child rfl

/-- A complete pattern that the limit allows for errs with nothing. -/
theorem Pattern.Complete.not_errsWith (hp : p.Complete) (hd : depth + p.nesting ≤ limit) :
    ¬ p.ErrsWith limit depth e := by
  intro h
  cases h with
  | tooDeep h => omega
  | hole h hc => simp [hp _ _ h] at hc

end errors

/-! ### Runs -/

namespace Matcher

variable {ν : Type}

/-- A run misses a nested pattern only where there is a hole: some construct that is looked at is of
the kind it reports, needs a nested pattern and has none. So a complete pattern has an outcome on
every tree, at every position and from every chain, if the limit allows for its nesting. -/
theorem run_misses_only_holes (m : Matcher) (t : Tree ν) (p : Pattern) (position : Option ν)
    (chain : Chain) :
    (∀ kind, m.run t p position chain = .error (.missingInner kind) →
      ∃ construct next, p.Consults (.node construct .absent next) ∧
        construct.needsInner = true ∧ construct.kindName = kind) ∧
    (p.Complete → p.nesting ≤ m.maxDepth →
      ∃ outcome c, m.run t p position chain = .ok (outcome, c)) := by
  obtain ⟨v, hv, run_eq⟩ := m.exists_run_eq_replay t p position
  rw [run_eq chain]
  constructor
  · intro kind h
    cases v with
    | error e =>
      cases h
      cases hv.errsWith rfl with
      | hole h hc => exact ⟨_, _, h, hc, rfl⟩
    | noMatch | leftover | matched => cases h
  · intro hp hd
    cases v with
    | error e => exact absurd (hv.errsWith rfl) (hp.not_errsWith (by omega))
    | noMatch | leftover | matched => exact ⟨_, _, rfl⟩

/-- The holes below a text and behind a binding are never looked at. The one inside a tag is, once
skipping has come to the second item. -/
theorem run_misses_only_holes_second_item :
    let d := Document.ofSteps [.enter "p", .leave, .enter "li", .text "a"]
    let hole := Pattern.node .repetition .absent .absent
    let item (inner : Pattern) := Pattern.node .skipUntil (.node (.tag "li") inner .absent) .absent
    let p := item (.node (.bind "x") (.node (.text "a") hole .absent) hole)
    (p.Complete ∧ p.nesting ≤ standard.maxDepth ∧
      ∃ outcome c, standard.run d.tree p d.rootNode .new = .ok (outcome, c)) ∧
    standard.run d.tree (item hole) d.rootNode .new = .error (.missingInner "repeat") ∧
      ∃ construct next, (item hole).Consults (.node construct .absent next) ∧
        construct.needsInner = true ∧ construct.kindName = "repeat" := by
  intro d hole item p
  have hp : p.Complete := by decide
  have hd : p.nesting ≤ standard.maxDepth := by decide
  have other : ComesTo d.tree standard.maxDepth (.node (.tag "li") hole .absent) d.rootNode 1
      .noMatch := .tagOther (by decide) (by rintro n ⟨⟩; decide)
  have missed : ComesTo d.tree standard.maxDepth (.node (.tag "li") hole .absent) (d.node? 1) 1
      (.error (.missingInner "repeat")) :=
    .tagChild (by decide) rfl (.missing (by decide) rfl) rfl
  have searched : ComesTo d.tree standard.maxDepth (item hole) d.rootNode 0
      (.error (.missingInner "repeat")) :=
    .skipOn (by decide) other rfl (.skipStop (by decide) missed rfl)
  have h : standard.run d.tree (item hole) d.rootNode .new = .error (.missingInner "repeat") :=
    searched.walk_eq .new
  exact ⟨⟨hp, hd, (run_misses_only_holes standard d.tree p d.rootNode .new).2 hp hd⟩, h,
    (run_misses_only_holes standard d.tree (item hole) d.rootNode .new).1 "repeat" h⟩

end Matcher

end TreePattern
