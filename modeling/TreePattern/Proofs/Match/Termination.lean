import Mathlib.Logic.Relation
import Mathlib.Order.WellFounded
import TreePattern.Document.Builder
import TreePattern.Proofs.Match.Replay

/-!
# Matching ends, and what it leaves over lies ahead

A matcher calls itself for nested patterns and for continuations. Skipping takes a turn for every
sibling, and repeating takes one for every node that its nested pattern leaves over, which may lie
deep among the children. `Matcher.walk` carries the evidence that all this ends along with its
answers. Here the walk is written down without any evidence: `Matcher.walkWithin` has a number of
calls that may be under way at once, a turn of a search being a call of its own, and answers nothing
when they run out. That the walk ends means that some number of calls is enough, and that with more
of them the answer stays the same.

* `ComesTo.exists_replays`: every rule that leads to a verdict takes one call more than the verdicts
  it builds on.
* `Document.lt_of_ahead`: what lies ahead in a document has a greater number.
* `Matcher.run_ends_and_advances`: a run ends, and leaves over only a node ahead of where it began.
-/

namespace TreePattern

/-! ### Lying ahead -/

/-- What lies ahead is reached from the position by following links, and is another node. -/
theorem Tree.Ahead.exists_transGen {ν : Type} {t : Tree ν} {position : Option ν} {tail : ν}
    (h : t.Ahead position tail) :
    ∃ n, position = some n ∧ Relation.TransGen t.Link n tail ∧ tail ≠ n := by
  obtain ⟨n, hn, path⟩ := h
  refine ⟨n, hn, Relation.transGen_swap.1 path, ?_⟩
  rintro rfl
  exact t.ahead_wellFounded.irrefl.irrefl tail path

/-- What lies ahead of a node of a document has a greater number. -/
theorem Document.lt_of_ahead {d : Document} {n tail : d.Node} (h : d.tree.Ahead (some n) tail) :
    n < tail := by
  have path := Tree.ahead_some.1 h
  clear h
  induction path with
  | single link => exact Document.lt_of_link link
  | tail _ link ih => exact Nat.lt_trans (Document.lt_of_link link) ih

namespace Matcher

/-! ### Walking with a number of calls -/

section calls

variable {ν : Type}

/-- What a construct answers by one turn of its own, given the calls it may make: its nested pattern
and its continuation at any position and from any chain, and itself at another position. -/
def turn (t : Tree ν) (construct : Construct) (childless : Bool)
    (inner rest : Option ν → Chain → Option (Answer ν)) (again : Option ν → Option (Answer ν))
    (position : Option ν) (chain : Chain) : Option (Answer ν) :=
  if construct.needsInner && childless then some (.error (.missingInner construct.kindName))
  else match construct with
    | .skipUntil => do
      match ← inner position chain with
      | .error e => return .error e
      | .ok (.matched value, c) => return .ok (.matched value, c)
      | .ok _ =>
        match position with
        | none => return .ok (.noMatch, chain)
        | some n => again (t.next n)
    | .repetition => do
      match ← inner position chain.push with
      | .error e => return .error e
      | .ok (.matched value, c) => return .ok (.matched value, c)
      | .ok (.noMatch, _) => return .ok (.noMatch, chain)
      | .ok (.leftover k, _) => again (some k)
    | .tag name =>
      match position with
      | none => some (.ok (.noMatch, chain))
      | some n =>
        if t.tag n = some name then do
          match ← inner (t.child n) chain with
          | .error e => return .error e
          | .ok (.noMatch, _) => return .ok (.noMatch, chain)
          | .ok (.leftover tail, _) => return .ok (.leftover tail, chain)
          | .ok (.matched _, left) =>
            match ← rest (t.next n) left with
            | .error e => return .error e
            | .ok (.noMatch, _) => return .ok (.noMatch, chain)
            | .ok (.leftover tail, _) => return .ok (.leftover tail, chain)
            | .ok (.matched _, right) => return .ok (.matched none, left.merge right)
        else some (.ok (.noMatch, chain))
    | .text literal => some (.ok (matchText t (· == literal) position, chain))
    | .regex e => some (.ok (matchText t e.accepts position, chain))
    | .scope => do
      match ← inner position chain.push with
      | .error e => return .error e
      | .ok (.matched value, c) => return .ok (.matched value, c)
      | .ok (outcome, _) => return .ok (outcome, chain)
    | .bind name => do
      match ← inner position chain with
      | .error e => return .error e
      | .ok (.matched (some value), c) => return .ok (.matched (some value), c.set name value)
      | .ok (outcome, c) => return .ok (outcome, c)

/-- The walk with a bound on the calls that may be under way at once, where every turn of a search
is a call of its own. If the bound is reached, nothing is answered. -/
def walkWithin (m : Matcher) (t : Tree ν) : Nat → Pattern → Option ν → Chain → Nat →
    Option (Answer ν)
  | 0, _, _, _, _ => none
  | calls + 1, p, position, chain, depth =>
    if m.maxDepth < depth then some (.error (.depthLimitExceeded m.maxDepth))
    else match p with
      | .absent =>
        match position with
        | none => some (.ok (.matched none, chain))
        | some n => some (.ok (.leftover n, chain))
      | .node construct child next =>
        turn t construct child.isAbsent
          (fun position chain => m.walkWithin t calls child position chain (depth + 1))
          (fun position chain => m.walkWithin t calls next position chain depth)
          (fun position => m.walkWithin t calls (.node construct child next) position chain depth)
          position chain

/-- A run with a bound on the calls that may be under way at once. -/
def runWithin (m : Matcher) (t : Tree ν) (calls : Nat) (p : Pattern) (position : Option ν)
    (chain : Chain) : Option (Answer ν) :=
  m.walkWithin t calls p position chain 0

variable {m : Matcher} {t : Tree ν} {p child next : Pattern} {position : Option ν} {chain : Chain}
  {depth calls : Nat} {v : Verdict ν}

theorem walkWithin_of_lt (h : m.maxDepth < depth) :
    m.walkWithin t (calls + 1) p position chain depth =
      some (.error (.depthLimitExceeded m.maxDepth)) :=
  if_pos h

theorem walkWithin_absent (h : depth ≤ m.maxDepth) :
    m.walkWithin t (calls + 1) .absent position chain depth =
      match position with
      | none => some (.ok (.matched none, chain))
      | some n => some (.ok (.leftover n, chain)) :=
  if_neg (Nat.not_lt.2 h)

theorem walkWithin_node {construct : Construct} (h : depth ≤ m.maxDepth) :
    m.walkWithin t (calls + 1) (.node construct child next) position chain depth =
      turn t construct child.isAbsent
        (fun position chain => m.walkWithin t calls child position chain (depth + 1))
        (fun position chain => m.walkWithin t calls next position chain depth)
        (fun position => m.walkWithin t calls (.node construct child next) position chain depth)
        position chain :=
  if_neg (Nat.not_lt.2 h)

/-- A construct that needs a nested pattern and has none makes no call. -/
theorem walkWithin_missing {construct : Construct} (h : depth ≤ m.maxDepth)
    (hc : construct.needsInner = true) :
    m.walkWithin t (calls + 1) (.node construct .absent next) position chain depth =
      some (.error (.missingInner construct.kindName)) := by
  rw [walkWithin_node h]
  cases construct with
  | repetition | scope | bind => rfl
  | _ => cases hc

/-- A construct for single text nodes makes no call. -/
theorem walkWithin_leaf {construct : Construct} {accepts : String → Bool}
    (h : depth ≤ m.maxDepth) (hc : construct.accepts? = some accepts) :
    m.walkWithin t (calls + 1) (.node construct child next) position chain depth =
      some (.ok (matchText t accepts position, chain)) := by
  rw [walkWithin_node h]
  cases construct with
  | text | regex =>
    cases hc
    rfl
  | _ => cases hc

/-- At an element of its name a tag calls for the children and then for the siblings. -/
theorem walkWithin_tag {name : String} {n : ν} (h : depth ≤ m.maxDepth) (ht : t.tag n = some name) :
    m.walkWithin t (calls + 1) (.node (.tag name) child next) (some n) chain depth = do
      match ← m.walkWithin t calls child (t.child n) chain (depth + 1) with
      | .error e => return .error e
      | .ok (.noMatch, _) => return .ok (.noMatch, chain)
      | .ok (.leftover tail, _) => return .ok (.leftover tail, chain)
      | .ok (.matched _, left) =>
        match ← m.walkWithin t calls next (t.next n) left depth with
        | .error e => return .error e
        | .ok (.noMatch, _) => return .ok (.noMatch, chain)
        | .ok (.leftover tail, _) => return .ok (.leftover tail, chain)
        | .ok (.matched _, right) => return .ok (.matched none, left.merge right) := by
  rw [walkWithin_node h]
  exact if_pos ht

/-! ### Enough calls -/

/-- With this many calls the walk replays a verdict, whatever chain it begins from. -/
def Replays (m : Matcher) (t : Tree ν) (calls : Nat) (p : Pattern) (position : Option ν)
    (depth : Nat) (v : Verdict ν) : Prop :=
  ∀ chain, m.walkWithin t calls p position chain depth = some (v.replay p chain)

/-- Calls that are enough for what a turn asks for, and one more for the turn, are enough. -/
theorem exists_replays_of_succ (calls : Nat)
    (h : ∀ more, calls ≤ more → m.Replays t (more + 1) p position depth v) :
    ∃ calls, ∀ more, calls ≤ more → m.Replays t more p position depth v := by
  refine ⟨calls + 1, fun more hm => ?_⟩
  obtain ⟨fewer, rfl⟩ := Nat.exists_eq_add_of_le' hm
  exact h (fewer + calls) (Nat.le_add_left ..)

/-- If some number of calls is enough for one thing and some number for another, then some number is
enough for both. -/
theorem exists_enough_for_both {P Q : Nat → Prop} (hP : ∃ calls, ∀ more, calls ≤ more → P more)
    (hQ : ∃ calls, ∀ more, calls ≤ more → Q more) :
    ∃ calls, ∀ more, calls ≤ more → P more ∧ Q more := by
  obtain ⟨calls, hP⟩ := hP
  obtain ⟨calls', hQ⟩ := hQ
  refine ⟨max calls calls', fun more hm => ⟨hP more ?_, hQ more ?_⟩⟩
  · exact Nat.le_trans (Nat.le_max_left ..) hm
  · exact Nat.le_trans (Nat.le_max_right ..) hm

end calls

end Matcher

open Matcher in
/-- A verdict is replayed with some number of calls and with every greater one. The induction is on
the rules that lead to the verdict; where a rule asks for two things, the calls are enough for
both. -/
theorem ComesTo.exists_replays {ν : Type} {t : Tree ν} {m : Matcher} {p : Pattern}
    {position : Option ν} {depth : Nat} {v : Verdict ν}
    (h : ComesTo t m.maxDepth p position depth v) :
    ∃ calls, ∀ more, calls ≤ more → m.Replays t more p position depth v := by
  induction h with
  | tooDeep h =>
    exact exists_replays_of_succ 0 fun more _ chain => walkWithin_of_lt h
  | atEnd h =>
    exact exists_replays_of_succ 0 fun more _ chain => walkWithin_absent h
  | atNode h =>
    exact exists_replays_of_succ 0 fun more _ chain => walkWithin_absent h
  | missing h hc =>
    exact exists_replays_of_succ 0 fun more _ chain => walkWithin_missing h hc
  | leafFits h hc hn ha =>
    refine exists_replays_of_succ 0 fun more _ chain => ?_
    rw [walkWithin_leaf h hc, ← ComesTo.walk_leaf h hc]
    exact congrArg some ((ComesTo.leafFits h hc hn ha).walk_eq chain)
  | leafFails h hc ha =>
    refine exists_replays_of_succ 0 fun more _ chain => ?_
    rw [walkWithin_leaf h hc, ← ComesTo.walk_leaf h hc]
    exact congrArg some ((ComesTo.leafFails h hc ha).walk_eq chain)
  | @skipStop _ _ _ _ v h _ hv ih =>
    obtain ⟨calls, inner⟩ := ih
    refine exists_replays_of_succ calls fun more hm chain => ?_
    rw [walkWithin_node h]
    dsimp only [turn]
    rw [inner more hm chain]
    cases v with
    | error | matched => rfl
    | noMatch | leftover => cases hv
  | @skipOn _ _ _ _ v _ h _ hv _ ihi ihr =>
    obtain ⟨calls, enough⟩ := exists_enough_for_both ihi ihr
    refine exists_replays_of_succ calls fun more hm chain => ?_
    obtain ⟨inner, again⟩ := enough more hm
    rw [walkWithin_node h]
    dsimp only [turn]
    rw [inner chain]
    cases v with
    | error | matched => cases hv
    | noMatch | leftover => exact again chain
  | @skipEnd _ _ _ v h _ hv ih =>
    obtain ⟨calls, inner⟩ := ih
    refine exists_replays_of_succ calls fun more hm chain => ?_
    rw [walkWithin_node h]
    dsimp only [turn]
    rw [inner more hm chain]
    cases v with
    | error | matched => cases hv
    | noMatch | leftover => rfl
  | @repeatStop _ _ _ _ v h hc _ hv ih =>
    obtain ⟨calls, inner⟩ := ih
    refine exists_replays_of_succ calls fun more hm chain => ?_
    rw [walkWithin_node h, hc]
    dsimp only [turn]
    rw [inner more hm chain.push]
    cases v with
    | error | matched | noMatch => rfl
    | leftover => cases hv
  | repeatOn h hc _ _ ihi ihr =>
    obtain ⟨calls, enough⟩ := exists_enough_for_both ihi ihr
    refine exists_replays_of_succ calls fun more hm chain => ?_
    obtain ⟨inner, again⟩ := enough more hm
    rw [walkWithin_node h, hc]
    dsimp only [turn]
    rw [inner chain.push]
    exact again chain
  | @tagOther _ _ _ position _ h ht =>
    refine exists_replays_of_succ 0 fun more _ chain => ?_
    rw [walkWithin_node h]
    cases position with
    | none => rfl
    | some n => exact if_neg (ht n rfl)
  | @tagChild _ _ _ _ _ v h ht _ hv ih =>
    obtain ⟨calls, inner⟩ := ih
    refine exists_replays_of_succ calls fun more hm chain => ?_
    rw [walkWithin_tag h ht, inner more hm chain]
    cases v with
    | error | noMatch | leftover => rfl
    | matched => cases hv
  | @tagNext _ child _ _ _ _ captures v h ht _ _ hv ihi ihr =>
    obtain ⟨calls, enough⟩ := exists_enough_for_both ihi ihr
    refine exists_replays_of_succ calls fun more hm chain => ?_
    obtain ⟨inner, rest⟩ := enough more hm
    have rest := rest ((chain.pushed child.pushes).record captures)
    rw [walkWithin_tag h ht, inner chain]
    dsimp only [Verdict.replay, Option.bind_eq_bind, Option.bind_some]
    rw [rest]
    cases v with
    | error | noMatch | leftover => rfl
    | matched => cases hv
  | @tagFits _ child _ _ _ _ captures _ captures' h ht _ _ ihi ihr =>
    obtain ⟨calls, enough⟩ := exists_enough_for_both ihi ihr
    refine exists_replays_of_succ calls fun more hm chain => ?_
    obtain ⟨inner, rest⟩ := enough more hm
    have rest := rest ((chain.pushed child.pushes).record captures)
    rw [walkWithin_tag h ht, inner chain]
    dsimp only [Verdict.replay, Option.bind_eq_bind, Option.bind_some]
    rw [rest]
    dsimp only [Verdict.replay, Option.bind_eq_bind, Option.bind_some]
    rw [Chain.merge_record, ← Chain.record_append]
    rfl
  | @scope _ _ _ _ v h hc _ ih =>
    obtain ⟨calls, inner⟩ := ih
    refine exists_replays_of_succ calls fun more hm chain => ?_
    rw [walkWithin_node h, hc]
    dsimp only [turn]
    rw [inner more hm chain.push]
    cases v <;> rfl
  | @bind _ _ _ _ _ v h hc _ ih =>
    obtain ⟨calls, inner⟩ := ih
    refine exists_replays_of_succ calls fun more hm chain => ?_
    rw [walkWithin_node h, hc]
    dsimp only [turn]
    rw [inner more hm chain]
    rcases v with e | _ | k | ⟨_ | value, captures⟩
    case matched.some =>
      dsimp only [Verdict.replay, Verdict.capture]
      rw [← Chain.set_record]
      rfl
    all_goals rfl

namespace Matcher

/-! ### Runs -/

section runs

variable {ν : Type} {m : Matcher} {t : Tree ν} {p : Pattern} {position : Option ν} {chain : Chain}

/-- With enough calls a run has its answer, and more calls do not change it. -/
theorem exists_runWithin_eq (m : Matcher) (t : Tree ν) (p : Pattern) (position : Option ν)
    (chain : Chain) :
    ∃ calls, ∀ more, calls ≤ more →
      m.runWithin t more p position chain = some (m.run t p position chain) := by
  obtain ⟨v, hv, run_eq⟩ := m.exists_run_eq_replay t p position
  obtain ⟨calls, enough⟩ := hv.exists_replays
  refine ⟨calls, fun more hm => ?_⟩
  rw [run_eq chain]
  exact enough more hm chain

/-- A node that a non-empty pattern leaves over lies ahead, at any depth. -/
theorem ahead_of_walk {depth : Nat} {tail : ν} {c : Chain} (hp : p.isAbsent = false)
    (h : m.walk t p position chain depth = .ok (.leftover tail, c)) : t.Ahead position tail := by
  obtain ⟨v, hv⟩ := exists_comesTo t m.maxDepth p position depth
  rw [hv.walk_eq chain] at h
  cases v with
  | error | noMatch | matched => cases h
  | leftover k =>
    cases h
    exact hv.ahead hp

end runs

/-- Every run of a pattern that is not empty ends, on every tree and from every chain. If it leaves
a node over, that node is reached by one link or more from the node where it began, and there was a
node to begin at. So a repeating construct, which starts again at the node that its nested pattern
leaves over, always starts again further on. In a document the node left over has the greater
number. -/
theorem run_ends_and_advances (m : Matcher) (construct : Construct) (child next : Pattern)
    (chain : Chain) :
    (∀ {ν : Type} (t : Tree ν) (position : Option ν),
      (∃ calls, ∀ more, calls ≤ more →
        m.runWithin t more (.node construct child next) position chain =
          some (m.run t (.node construct child next) position chain)) ∧
      (∀ tail c, m.run t (.node construct child next) position chain = .ok (.leftover tail, c) →
        ∃ n, position = some n ∧ Relation.TransGen t.Link n tail ∧ tail ≠ n) ∧
      ∀ k c depth, depth ≤ m.maxDepth → child.isAbsent = false →
        m.walk t child position chain.push (depth + 1) = .ok (.leftover k, c) →
        m.walk t (.node .repetition child next) position chain depth =
            m.walk t (.node .repetition child next) (some k) chain depth ∧
          ∃ n, position = some n ∧ Relation.TransGen t.Link n k ∧ k ≠ n) ∧
    ∀ (d : Document) (n tail : d.Node) (c : Chain),
      m.run d.tree (.node construct child next) (some n) chain = .ok (.leftover tail, c) →
      n < tail := by
  refine ⟨fun t position => ⟨?_, ?_, ?_⟩, ?_⟩
  · exact exists_runWithin_eq m t _ position chain
  · intro tail c h
    exact (ahead_of_walk rfl h).exists_transGen
  · intro k c depth hd hc h
    refine ⟨?_, (ahead_of_walk hc h).exists_transGen⟩
    rw [walk_repetition hd hc, h]
  · intro d n tail c h
    exact Document.lt_of_ahead (ahead_of_walk rfl h)

/-- A tag that fits the first of two siblings leaves over the second. -/
theorem run_ends_and_advances_to_sibling :
    let d := Document.ofSteps [.enter "p", .text "a", .leave, .enter "q"]
    let p := Pattern.node (.tag "p") (.node (.text "a") .absent .absent) .absent
    ∃ tail c, standard.run d.tree p d.rootNode .new = .ok (.leftover tail, c) ∧ 0 < tail.val := by
  intro d p
  have h : standard.run d.tree p d.rootNode .new = .ok (.leftover ⟨2, by decide⟩, .new) := rfl
  exact ⟨_, _, h, (run_ends_and_advances standard _ _ _ .new).2 d ⟨0, by decide⟩ _ _ h⟩

end Matcher

end TreePattern
