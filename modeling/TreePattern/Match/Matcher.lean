import TreePattern.Match.Search
import TreePattern.Pattern.Basic

/-!
# Matching patterns

A pattern is matched at a position of a tree, which is a node or the place behind the last sibling,
with a chain of frames to begin from. The walk goes down with the pattern: into nested patterns one
level deeper, along continuations on the same level. Captures are written into the chain that is
handed along, and a pattern that does not fit hands back the chain it was given.

* An empty pattern fits where there is no node, and leaves over the node that there is.
* A text pattern looks at one node and hands on its text.
* A tag matches its nested pattern against the children and its continuation against the siblings.
* The remaining constructs apply their nested pattern once, or search for a place where it fits.

The walk is defined along with the fact that a node left over by a pattern that is not empty lies
ahead of where the pattern was tried; this is what makes repeating end. `Matcher.walk` is the walk
without that evidence, and the theorems `Matcher.walk_absent` to `Matcher.walk_bind` say what it
answers, construct by construct.
-/

namespace TreePattern

/-- Where the node lies that a pattern leaves over: the empty pattern leaves over the node it is
tried at, and any other a node ahead. -/
def LeavesOver {ν : Type} (t : Tree ν) (p : Pattern) (position : Option ν) :
    Outcome ν → Prop
  | .leftover tail => if p.isAbsent then position = some tail else t.Ahead position tail
  | _ => True

namespace LeavesOver

variable {ν : Type} {t : Tree ν} {p : Pattern} {position : Option ν} {m tail : ν}

theorem of_matched (value : Option String) : LeavesOver t p position (.matched value) := trivial

theorem of_noMatch : LeavesOver t p position .noMatch := trivial

theorem ahead (hp : p.isAbsent = false) (h : LeavesOver t p position (.leftover tail)) :
    t.Ahead position tail := by
  simpa [LeavesOver, hp] using h

theorem intro {construct : Construct} {child next : Pattern} (h : t.Ahead position tail) :
    LeavesOver t (.node construct child next) position (.leftover tail) := by
  simpa [LeavesOver, Pattern.isAbsent] using h

/-- What is left over among the children of a node lies ahead of the node. -/
theorem ahead_of_child (h : LeavesOver t p (t.child m) (.leftover tail)) :
    t.Ahead (some m) tail := by
  cases hp : p.isAbsent
  · obtain ⟨n, hn, _⟩ := h.ahead hp
    exact (Tree.ahead_child hn).trans (hn ▸ h.ahead hp)
  · exact Tree.ahead_child (by simpa [LeavesOver, hp] using h)

/-- What is left over among the siblings of a node lies ahead of the node. -/
theorem ahead_of_next (h : LeavesOver t p (t.next m) (.leftover tail)) :
    t.Ahead (some m) tail := by
  cases hp : p.isAbsent
  · obtain ⟨n, hn, _⟩ := h.ahead hp
    exact (Tree.ahead_next hn).trans (hn ▸ h.ahead hp)
  · exact Tree.ahead_next (by simpa [LeavesOver, hp] using h)

end LeavesOver

/-- A matcher: how deep it lets patterns nest. -/
structure Matcher where
  /-- The greatest depth of a nested pattern. -/
  maxDepth : Nat
  deriving DecidableEq

namespace Matcher

/-- The matcher that is used when no limit is asked for. -/
def standard : Matcher := ⟨10000⟩

instance : Inhabited Matcher := ⟨standard⟩

/-- The outcome of a text pattern at a position. -/
def matchText {ν : Type} (t : Tree ν) (accepts : String → Bool) (position : Option ν) : Outcome ν :=
  match position.bind t.shownText with
  | some text => if accepts text then .matched (some text) else .noMatch
  | none => .noMatch

theorem leavesOver_matchText {ν : Type} {t : Tree ν} {accepts : String → Bool} {p : Pattern}
    {position : Option ν} : LeavesOver t p position (matchText t accepts position) := by
  unfold matchText
  split
  · split <;> trivial
  · trivial

/-- What a construct answers, given how its nested pattern and its continuation answer at any
position and from any chain; the answer vouches for where a node left over lies. -/
@[inline] def exploreNode {ν : Type} (t : Tree ν) (construct : Construct) (child next : Pattern)
    (inner : (position : Option ν) → Chain → Vouched (LeavesOver t child position))
    (rest : (position : Option ν) → Chain → Vouched (LeavesOver t next position))
    (position : Option ν) (chain : Chain) :
    Vouched (LeavesOver t (.node construct child next) position) :=
  match construct with
  | .skipUntil =>
    skipFrom t (fun position => inner position chain) chain LeavesOver.of_matched
      LeavesOver.of_noMatch position
  | .repetition =>
    if h : child.isAbsent then .error (.missingInner Construct.repetition.kindName)
    else
      repeatFrom t (fun position => inner position chain.push) chain
        (fun _ _ => LeavesOver.ahead (Bool.eq_false_iff.2 h)) LeavesOver.of_matched
        LeavesOver.of_noMatch position
  | .tag name =>
    match position with
    | none => .ok ⟨(.noMatch, chain), trivial⟩
    | some n =>
      if t.tag n = some name then
        match inner (t.child n) chain with
        | .error e => .error e
        | .ok ⟨(.noMatch, _), _⟩ => .ok ⟨(.noMatch, chain), trivial⟩
        | .ok ⟨(.leftover tail, _), h⟩ =>
          .ok ⟨(.leftover tail, chain), .intro (LeavesOver.ahead_of_child h)⟩
        | .ok ⟨(.matched _, left), _⟩ =>
          match rest (t.next n) left with
          | .error e => .error e
          | .ok ⟨(.noMatch, _), _⟩ => .ok ⟨(.noMatch, chain), trivial⟩
          | .ok ⟨(.leftover tail, _), h⟩ =>
            .ok ⟨(.leftover tail, chain), .intro (LeavesOver.ahead_of_next h)⟩
          | .ok ⟨(.matched _, right), _⟩ => .ok ⟨(.matched none, left.merge right), trivial⟩
      else .ok ⟨(.noMatch, chain), trivial⟩
  | .text literal => .ok ⟨(matchText t (· == literal) position, chain), leavesOver_matchText⟩
  | .regex e => .ok ⟨(matchText t e.accepts position, chain), leavesOver_matchText⟩
  | .scope =>
    if h : child.isAbsent then .error (.missingInner Construct.scope.kindName)
    else match inner position chain.push with
      | .error e => .error e
      | .ok ⟨(.matched value, c), _⟩ => .ok ⟨(.matched value, c), trivial⟩
      | .ok ⟨(.noMatch, _), _⟩ => .ok ⟨(.noMatch, chain), trivial⟩
      | .ok ⟨(.leftover tail, _), ht⟩ =>
        .ok ⟨(.leftover tail, chain), .intro (ht.ahead (Bool.eq_false_iff.2 h))⟩
  | .bind name =>
    if h : child.isAbsent then .error (.missingInner (Construct.bind name).kindName)
    else match inner position chain with
      | .error e => .error e
      | .ok ⟨(.matched (some value), c), _⟩ =>
        .ok ⟨(.matched (some value), c.set name value), trivial⟩
      | .ok ⟨(.matched none, c), _⟩ => .ok ⟨(.matched none, c), trivial⟩
      | .ok ⟨(.noMatch, c), _⟩ => .ok ⟨(.noMatch, c), trivial⟩
      | .ok ⟨(.leftover tail, c), ht⟩ =>
        .ok ⟨(.leftover tail, c), .intro (ht.ahead (Bool.eq_false_iff.2 h))⟩

/-- Matches a pattern at a position, beginning from a chain and at a depth; the answer vouches for
where a node left over lies. Nested patterns are one level deeper, continuations are not. -/
def explore {ν : Type} (t : Tree ν) (limit : Nat) :
    (p : Pattern) → (position : Option ν) → Chain → Nat → Vouched (LeavesOver t p position)
  | .absent, position, chain, depth =>
    if limit < depth then .error (.depthLimitExceeded limit)
    else match position with
      | none => .ok ⟨(.matched none, chain), trivial⟩
      | some n => .ok ⟨(.leftover n, chain), rfl⟩
  | .node construct child next, position, chain, depth =>
    if limit < depth then .error (.depthLimitExceeded limit)
    else
      exploreNode t construct child next
        (fun position chain => explore t limit child position chain (depth + 1))
        (fun position chain => explore t limit next position chain depth) position chain

/-- Matches a pattern at a position, beginning from a chain and at a depth. -/
def walk {ν : Type} (m : Matcher) (t : Tree ν) (p : Pattern) (position : Option ν) (chain : Chain)
    (depth : Nat) : Answer ν :=
  (explore t m.maxDepth p position chain depth).answer

/-- Matches a pattern at a position, beginning from a chain. -/
def run {ν : Type} (m : Matcher) (t : Tree ν) (p : Pattern) (position : Option ν) (chain : Chain) :
    Answer ν :=
  m.walk t p position chain 0

/-! ### What constructs answer -/

variable {ν : Type} {t : Tree ν} {child next : Pattern} {position : Option ν} {chain : Chain}
  {inner : (position : Option ν) → Chain → Vouched (LeavesOver t child position)}
  {rest : (position : Option ν) → Chain → Vouched (LeavesOver t next position)}

theorem answer_skipUntil :
    (exploreNode t .skipUntil child next inner rest position chain).answer =
      match (inner position chain).answer with
      | .error e => .error e
      | .ok (.matched value, c) => .ok (.matched value, c)
      | .ok _ =>
        match position with
        | none => .ok (.noMatch, chain)
        | some n => (exploreNode t .skipUntil child next inner rest (t.next n) chain).answer := by
  refine (congrArg Vouched.answer (skipFrom_eq ..)).trans ?_
  rcases inner position chain with e | ⟨⟨o | k | _, c⟩, hp⟩ <;> try rfl
  all_goals
    cases position with
    | none => rfl
    | some n => exact answer_skipFrom ..

theorem answer_repetition (hc : child.isAbsent = false) :
    (exploreNode t .repetition child next inner rest position chain).answer =
      match (inner position chain.push).answer with
      | .error e => .error e
      | .ok (.matched value, c) => .ok (.matched value, c)
      | .ok (.noMatch, _) => .ok (.noMatch, chain)
      | .ok (.leftover k, _) =>
        (exploreNode t .repetition child next inner rest (some k) chain).answer := by
  have hc' : ¬ child.isAbsent = true := Bool.eq_false_iff.1 hc
  have again (position : Option ν) :
      exploreNode t .repetition child next inner rest position chain =
        repeatFrom t (fun position => inner position chain.push) chain
          (fun _ _ => LeavesOver.ahead hc) LeavesOver.of_matched LeavesOver.of_noMatch position :=
    dif_neg hc'
  rw [again, repeatFrom_eq]
  rcases inner position chain.push with e | ⟨⟨o | k | _, c⟩, hp⟩ <;> try rfl
  exact (answer_repeatFrom ..).trans (congrArg Vouched.answer (again (some k)).symm)

theorem answer_tag {name : String} :
    (exploreNode t (.tag name) child next inner rest position chain).answer =
      match position with
      | none => .ok (.noMatch, chain)
      | some n =>
        if t.tag n = some name then
          match (inner (t.child n) chain).answer with
          | .error e => .error e
          | .ok (.noMatch, _) => .ok (.noMatch, chain)
          | .ok (.leftover tail, _) => .ok (.leftover tail, chain)
          | .ok (.matched _, left) =>
            match (rest (t.next n) left).answer with
            | .error e => .error e
            | .ok (.noMatch, _) => .ok (.noMatch, chain)
            | .ok (.leftover tail, _) => .ok (.leftover tail, chain)
            | .ok (.matched _, right) => .ok (.matched none, left.merge right)
        else .ok (.noMatch, chain) := by
  cases position with
  | none => rfl
  | some n =>
    by_cases ht : t.tag n = some name
    · refine (congrArg Vouched.answer (if_pos ht)).trans (Eq.trans ?_ (if_pos ht).symm)
      rcases inner (t.child n) chain with e | ⟨⟨o | k | _, left⟩, hp⟩ <;> try rfl
      dsimp only [Vouched.answer, Except.map]
      rcases rest (t.next n) left with e | ⟨⟨o | k | _, right⟩, hp⟩ <;> rfl
    · exact (congrArg Vouched.answer (if_neg ht)).trans (if_neg ht).symm

theorem answer_scope (hc : child.isAbsent = false) :
    (exploreNode t .scope child next inner rest position chain).answer =
      match (inner position chain.push).answer with
      | .error e => .error e
      | .ok (.matched value, c) => .ok (.matched value, c)
      | .ok (outcome, _) => .ok (outcome, chain) := by
  refine (congrArg Vouched.answer (dif_neg (Bool.eq_false_iff.1 hc))).trans ?_
  rcases inner position chain.push with e | ⟨⟨o | k | _, c⟩, hp⟩ <;> rfl

theorem answer_bind {name : String} (hc : child.isAbsent = false) :
    (exploreNode t (.bind name) child next inner rest position chain).answer =
      match (inner position chain).answer with
      | .error e => .error e
      | .ok (.matched (some value), c) => .ok (.matched (some value), c.set name value)
      | .ok (outcome, c) => .ok (outcome, c) := by
  refine (congrArg Vouched.answer (dif_neg (Bool.eq_false_iff.1 hc))).trans ?_
  rcases inner position chain with e | ⟨⟨(_ | o) | k | _, c⟩, hp⟩ <;> rfl

/-! ### What the walk answers -/

variable {m : Matcher} {depth : Nat}

/-- Beyond the limit nothing is looked at. -/
theorem walk_of_lt {p : Pattern} (h : m.maxDepth < depth) :
    m.walk t p position chain depth = .error (.depthLimitExceeded m.maxDepth) := by
  cases p with
  | absent => exact congrArg Vouched.answer (if_pos h)
  | node => exact congrArg Vouched.answer (if_pos h)

/-- The empty pattern fits where there is no node. -/
theorem walk_absent (h : depth ≤ m.maxDepth) :
    m.walk t .absent position chain depth =
      match position with
      | none => .ok (.matched none, chain)
      | some n => .ok (.leftover n, chain) := by
  cases position with
  | none => exact congrArg Vouched.answer (if_neg (Nat.not_lt.2 h))
  | some n => exact congrArg Vouched.answer (if_neg (Nat.not_lt.2 h))

/-- Within the limit a construct answers for itself. -/
theorem walk_node {construct : Construct} (h : depth ≤ m.maxDepth) :
    m.walk t (.node construct child next) position chain depth =
      (exploreNode t construct child next
        (fun position chain => explore t m.maxDepth child position chain (depth + 1))
        (fun position chain => explore t m.maxDepth next position chain depth)
        position chain).answer :=
  congrArg Vouched.answer (if_neg (Nat.not_lt.2 h))

/-- A literal text fits a text node with that text. -/
theorem walk_text {literal : String} (h : depth ≤ m.maxDepth) :
    m.walk t (.node (.text literal) child next) position chain depth =
      .ok (matchText t (· == literal) position, chain) :=
  walk_node h

/-- An expression fits a text node in whose text it occurs. -/
theorem walk_regex {e : Expression} (h : depth ≤ m.maxDepth) :
    m.walk t (.node (.regex e) child next) position chain depth =
      .ok (matchText t e.accepts position, chain) :=
  walk_node h

/-- Skipping tries the nested pattern here, or else goes on behind the node that is here. -/
theorem walk_skipUntil (h : depth ≤ m.maxDepth) :
    m.walk t (.node .skipUntil child next) position chain depth =
      match m.walk t child position chain (depth + 1) with
      | .error e => .error e
      | .ok (.matched value, c) => .ok (.matched value, c)
      | .ok _ =>
        match position with
        | none => .ok (.noMatch, chain)
        | some n => m.walk t (.node .skipUntil child next) (t.next n) chain depth := by
  simp only [walk_node h]
  exact answer_skipUntil

/-- Repeating needs a nested pattern. -/
theorem walk_repetition_absent (h : depth ≤ m.maxDepth) :
    m.walk t (.node .repetition .absent next) position chain depth =
      .error (.missingInner "repeat") :=
  walk_node h

/-- Repeating tries the nested pattern here with a new frame, and starts again at a node left
over. -/
theorem walk_repetition (h : depth ≤ m.maxDepth) (hc : child.isAbsent = false) :
    m.walk t (.node .repetition child next) position chain depth =
      match m.walk t child position chain.push (depth + 1) with
      | .error e => .error e
      | .ok (.matched value, c) => .ok (.matched value, c)
      | .ok (.noMatch, _) => .ok (.noMatch, chain)
      | .ok (.leftover k, _) => m.walk t (.node .repetition child next) (some k) chain depth := by
  simp only [walk_node h]
  exact answer_repetition hc

/-- A tag fits an element of its name whose children fit the nested pattern and whose siblings fit
the continuation; where one of them does not, its outcome stands. -/
theorem walk_tag {name : String} (h : depth ≤ m.maxDepth) :
    m.walk t (.node (.tag name) child next) position chain depth =
      match position with
      | none => .ok (.noMatch, chain)
      | some n =>
        if t.tag n = some name then
          match m.walk t child (t.child n) chain (depth + 1) with
          | .error e => .error e
          | .ok (.noMatch, _) => .ok (.noMatch, chain)
          | .ok (.leftover tail, _) => .ok (.leftover tail, chain)
          | .ok (.matched _, left) =>
            match m.walk t next (t.next n) left depth with
            | .error e => .error e
            | .ok (.noMatch, _) => .ok (.noMatch, chain)
            | .ok (.leftover tail, _) => .ok (.leftover tail, chain)
            | .ok (.matched _, right) => .ok (.matched none, left.merge right)
        else .ok (.noMatch, chain) :=
  (walk_node h).trans answer_tag

/-- A scope needs a nested pattern. -/
theorem walk_scope_absent (h : depth ≤ m.maxDepth) :
    m.walk t (.node .scope .absent next) position chain depth =
      .error (.missingInner "scope") :=
  walk_node h

/-- A scope answers as its nested pattern does with a new frame, and keeps the frame if that
fits. -/
theorem walk_scope (h : depth ≤ m.maxDepth) (hc : child.isAbsent = false) :
    m.walk t (.node .scope child next) position chain depth =
      match m.walk t child position chain.push (depth + 1) with
      | .error e => .error e
      | .ok (.matched value, c) => .ok (.matched value, c)
      | .ok (outcome, _) => .ok (outcome, chain) :=
  (walk_node h).trans (answer_scope hc)

/-- Binding needs a nested pattern. -/
theorem walk_bind_absent {name : String} (h : depth ≤ m.maxDepth) :
    m.walk t (.node (.bind name) .absent next) position chain depth =
      .error (.missingInner "bind") :=
  walk_node h

/-- Binding answers as its nested pattern does, and writes the text that this was matched with, if
any, under its name. -/
theorem walk_bind {name : String} (h : depth ≤ m.maxDepth) (hc : child.isAbsent = false) :
    m.walk t (.node (.bind name) child next) position chain depth =
      match m.walk t child position chain (depth + 1) with
      | .error e => .error e
      | .ok (.matched (some value), c) => .ok (.matched (some value), c.set name value)
      | .ok (outcome, c) => .ok (outcome, c) :=
  (walk_node h).trans (answer_bind hc)

end Matcher

end TreePattern
