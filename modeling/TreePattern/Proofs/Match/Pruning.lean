import TreePattern.Document.Builder
import TreePattern.Proofs.Match.Consulted

/-!
# Slots that nobody looks at

A pattern can carry more than a matcher will ever see: the continuation of anything but a tag, and
whatever stands below a construct for single text nodes. `Pattern.prune` empties these slots at
every level. What was in them cannot matter, be it a hole, which is an error elsewhere, or a pattern
nested deeper than any limit. The rules for what a pattern comes to never mention these slots, so
one derivation serves both patterns, and both push as many frames.

* `Pattern.Occurs.consults`: after pruning, all that is left is looked at.
* `ComesTo.prune`: a pattern comes to the same when it is pruned.
* `Matcher.run_prune`: all runs answer alike.
-/

namespace TreePattern

namespace Pattern

/-! ### Pruning -/

/-- The pattern without what no matcher looks at: the continuations of all constructs but tags, and
what is nested in constructs for single text nodes. -/
def prune : Pattern → Pattern
  | absent => absent
  | node (.text literal) _ _ => node (.text literal) absent absent
  | node (.regex e) _ _ => node (.regex e) absent absent
  | node (.tag name) child next => node (.tag name) child.prune next.prune
  | node .skipUntil child _ => node .skipUntil child.prune absent
  | node .repetition child _ => node .repetition child.prune absent
  | node .scope child _ => node .scope child.prune absent
  | node (.bind name) child _ => node (.bind name) child.prune absent

/-- All slots of a pattern by what is in them, the pattern itself among them. -/
inductive Occurs (p : Pattern) : Pattern → Prop where
  | root : Occurs p p
  | child {construct : Construct} {child next : Pattern}
      (h : Occurs p (.node construct child next)) : Occurs p child
  | next {construct : Construct} {child next : Pattern}
      (h : Occurs p (.node construct child next)) : Occurs p next

variable {p q child next : Pattern} {construct : Construct}

/-- Pruning empties both slots of a construct for single text nodes. -/
theorem prune_of_accepts? {accepts : String → Bool} (h : construct.accepts? = some accepts) :
    (node construct child next).prune = node construct absent absent := by
  cases construct with
  | text | regex => rfl
  | _ => cases h

/-- Pruning keeps a construct that needs a nested pattern and has none. -/
theorem prune_of_needsInner (h : construct.needsInner = true) :
    (node construct absent next).prune = node construct absent absent := by
  cases construct with
  | repetition | scope | bind => rfl
  | _ => cases h

@[simp] theorem isAbsent_prune (p : Pattern) : p.prune.isAbsent = p.isAbsent := by
  cases p with
  | absent => rfl
  | node construct child next => cases construct <;> rfl

@[simp] theorem pushes_prune : ∀ p : Pattern, p.prune.pushes = p.pushes
  | absent => rfl
  | node construct child next => by
    have inner := pushes_prune child
    cases construct with
    | text | regex => rfl
    | skipUntil | tag | bind => exact inner
    | repetition | scope => exact congrArg (· + 1) inner

/-- In a pruned pattern, the slots of the first construct are pruned patterns, and those that nobody
looks at are empty. -/
theorem prune_eq_node (h : p.prune = node construct child next) :
    (∃ p' : Pattern, child = p'.prune) ∧ (∃ p' : Pattern, next = p'.prune) ∧
      (child = absent ∨ construct.accepts? = none) ∧
      (next = absent ∨ ∃ name, construct = .tag name) := by
  cases p with
  | absent => cases h
  | node construct' child' next' =>
    cases construct' with
    | text | regex =>
      cases h
      exact ⟨⟨absent, rfl⟩, ⟨absent, rfl⟩, .inl rfl, .inl rfl⟩
    | tag name =>
      cases h
      exact ⟨⟨child', rfl⟩, ⟨next', rfl⟩, .inr rfl, .inr ⟨name, rfl⟩⟩
    | skipUntil | repetition | scope | bind =>
      cases h
      exact ⟨⟨child', rfl⟩, ⟨absent, rfl⟩, .inr rfl, .inl rfl⟩

/-- What is in the slots of a pruned pattern is pruned. -/
theorem Occurs.exists_eq_prune (h : p.prune.Occurs q) : ∃ p' : Pattern, q = p'.prune := by
  induction h with
  | root => exact ⟨p, rfl⟩
  | child _ ih =>
    obtain ⟨p', hp⟩ := ih
    exact (prune_eq_node hp.symm).1
  | next _ ih =>
    obtain ⟨p', hp⟩ := ih
    exact (prune_eq_node hp.symm).2.1

/-- What is left in the slots of a pruned pattern is looked at. -/
theorem Occurs.consults (h : p.prune.Occurs q) : q = absent ∨ p.prune.Consults q := by
  induction h with
  | root => exact .inr .root
  | child within ih =>
    obtain ⟨p', hp⟩ := within.exists_eq_prune
    obtain ⟨-, -, empty | below, -⟩ := prune_eq_node hp.symm
    · exact .inl empty
    · exact .inr ((ih.resolve_left nofun).child below)
  | next within ih =>
    obtain ⟨p', hp⟩ := within.exists_eq_prune
    obtain ⟨-, -, -, empty | ⟨name, rfl⟩⟩ := prune_eq_node hp.symm
    · exact .inl empty
    · exact .inr (ih.resolve_left nofun).next

end Pattern

/-! ### The same verdicts -/

/-- A pattern comes to the same when it is pruned: whatever rule applies to it applies to what is
left of it, errors and holes that are met included. -/
theorem ComesTo.prune {ν : Type} {t : Tree ν} {limit : Nat} {p : Pattern} {position : Option ν}
    {depth : Nat} {v : Verdict ν} (h : ComesTo t limit p position depth v) :
    ComesTo t limit p.prune position depth v := by
  induction h with
  | tooDeep h => exact .tooDeep h
  | atEnd h => exact .atEnd h
  | atNode h => exact .atNode h
  | missing h hc =>
    rw [Pattern.prune_of_needsInner hc]
    exact .missing h hc
  | leafFits h hc hn ha =>
    rw [Pattern.prune_of_accepts? hc]
    exact .leafFits h hc hn ha
  | leafFails h hc ha =>
    rw [Pattern.prune_of_accepts? hc]
    exact .leafFails h hc ha
  | skipStop h _ hv ih => exact .skipStop h ih hv
  | skipOn h _ hv _ ihi ihr => exact .skipOn h ihi hv ihr
  | skipEnd h _ hv ih => exact .skipEnd h ih hv
  | repeatStop h hc _ hv ih => exact .repeatStop h ((Pattern.isAbsent_prune _).trans hc) ih hv
  | repeatOn h hc _ _ ihi ihr => exact .repeatOn h ((Pattern.isAbsent_prune _).trans hc) ihi ihr
  | tagOther h ht => exact .tagOther h ht
  | tagChild h ht _ hv ih => exact .tagChild h ht ih hv
  | tagNext h ht _ _ hv ihi ihr => exact .tagNext h ht ihi ihr hv
  | tagFits h ht _ _ ihi ihr => exact .tagFits h ht ihi ihr
  | scope h hc _ ih => exact .scope h ((Pattern.isAbsent_prune _).trans hc) ih
  | bind h hc _ ih => exact .bind h ((Pattern.isAbsent_prune _).trans hc) ih

/-- Replaying a verdict looks at a pattern only for the frames it pushes. -/
theorem Verdict.replay_prune {ν : Type} (v : Verdict ν) (p : Pattern) (chain : Chain) :
    v.replay p.prune chain = v.replay p chain := by
  cases v with
  | matched value captures => simp [replay]
  | error | noMatch | leftover => rfl

/-! ### Runs -/

namespace Matcher

/-- Slots that nobody looks at are dead. Emptying them at every level of a pattern changes no run,
from whatever chain and with whatever limit: the answer is the same, with its chain, or the same
error. And these are all such slots, as what is left in the others is looked at. -/
theorem run_prune {ν : Type} (m : Matcher) (t : Tree ν) (p : Pattern) (position : Option ν)
    (chain : Chain) :
    m.run t p.prune position chain = m.run t p position chain ∧
      ∀ q, p.prune.Occurs q → q = .absent ∨ p.prune.Consults q := by
  refine ⟨?_, fun q h => h.consults⟩
  obtain ⟨v, hv, run_eq⟩ := m.exists_run_eq_replay t p position
  have pruned : m.run t p.prune position chain = v.replay p.prune chain := hv.prune.walk_eq chain
  rw [pruned, run_eq, Verdict.replay_prune]

/-- A text is found by skipping. What skipping is continued by and what stands below the text are
holes, which would be errors if they were looked at. -/
theorem run_prune_hidden_holes :
    let d := Document.ofSteps [.enter "hr", .leave, .text "a"]
    let hole := Pattern.ofConstruct .repetition
    let p := Pattern.node .skipUntil (.node (.text "a") hole hole) hole
    let found := Pattern.ofConstruct (.text "a")
    p.prune = .node .skipUntil found .absent ∧ p.prune.Occurs found ∧ p.prune.Consults found ∧
      (Matcher.mk 1).run d.tree p d.rootNode .new = .ok (.matched (some "a"), .new) := by
  intro d hole p found
  have occurs : p.prune.Occurs found := Pattern.Occurs.root.child
  obtain ⟨run_eq, left⟩ := run_prune (Matcher.mk 1) d.tree p d.rootNode .new
  have here : ComesTo d.tree 1 found d.rootNode 1 .noMatch :=
    .leafFails (by decide) rfl fun n text hn hs => by
      cases hn
      cases hs
  have next : ComesTo d.tree 1 found (some ⟨1, by decide⟩) 1 (.matched (some "a") []) :=
    .leafFits (by decide) rfl rfl rfl
  have fits : ComesTo d.tree 1 p.prune d.rootNode 0 (.matched (some "a") []) :=
    .skipOn (by decide) here rfl (.skipStop (by decide) next rfl)
  exact ⟨rfl, occurs, (left found occurs).resolve_left nofun,
    run_eq.symm.trans (fits.walk_eq (m := ⟨1⟩) .new)⟩

end Matcher

end TreePattern
