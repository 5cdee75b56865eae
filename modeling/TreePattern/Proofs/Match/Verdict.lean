import TreePattern.Match.Matcher

/-!
# What a pattern comes to

The walk of a matcher hands a chain of frames along and writes captures into it. Here matching is
described without chains: `ComesTo` says, rule by rule, what a pattern comes to at a position, and
a fit comes with the list of the captures made on the way to it, the earliest first. Nothing in the
rules can look at a chain, so whatever is shown of verdicts holds for all chains to begin from.

* `ComesTo.ahead`: a node that a non-empty pattern leaves over lies ahead of where it was tried.
* `exists_comesTo`: every pattern comes to something at every position.
* `ComesTo.skipUntil_inv`, `ComesTo.repetition_inv`, `ComesTo.tag_inv` and the like: what is behind
  a verdict on each construct.
* `ComesTo.unique`: it comes to one thing only.
-/

namespace TreePattern

namespace Construct

/-- Which texts a construct for single text nodes accepts; the other constructs have no such say. -/
def accepts? : Construct → Option (String → Bool)
  | text literal => some (· == literal)
  | regex e => some e.accepts
  | _ => none

/-- Whether a construct cannot do without a nested pattern. -/
def needsInner : Construct → Bool
  | repetition | scope | bind _ => true
  | _ => false

/-- A construct for single text nodes can do without a nested pattern. -/
theorem needsInner_of_accepts? {construct : Construct} {accepts : String → Bool}
    (h : construct.accepts? = some accepts) : construct.needsInner = false := by
  cases construct <;> first | rfl | cases h

end Construct

/-- What a pattern comes to at a position: an error, or how matching ends, and for a fit the names
and texts captured on the way, the earliest first. -/
inductive Verdict (ν : Type) where
  /-- Matching is given up. -/
  | error (e : MatchError)
  /-- The pattern does not fit. -/
  | noMatch
  /-- The pattern runs out where this node is left. -/
  | leftover (tail : ν)
  /-- The pattern fits, with the text it hands on and what it captured. -/
  | matched (value : Option String) (captures : List (String × String))
  deriving DecidableEq

namespace Verdict

variable {ν : Type}

/-- Whether the pattern fits. -/
def isMatch : Verdict ν → Bool
  | matched .. => true
  | _ => false

/-- Whether the pattern was tried to no avail: it does not fit or leaves a node over. -/
def isFailure : Verdict ν → Bool
  | noMatch | leftover _ => true
  | _ => false

/-- The node that is left over. -/
def tail? : Verdict ν → Option ν
  | leftover tail => some tail
  | _ => none

/-- The verdict with the text that is handed on captured under a name. -/
def capture (name : String) : Verdict ν → Verdict ν
  | matched (some value) captures => matched (some value) (captures ++ [(name, value)])
  | v => v

@[simp] theorem isMatch_matched (value : Option String) (captures : List (String × String)) :
    (matched value captures : Verdict ν).isMatch = true := rfl

@[simp] theorem isFailure_leftover (tail : ν) : (leftover tail).isFailure = true := rfl

@[simp] theorem tail?_leftover (tail : ν) : (leftover tail).tail? = some tail := rfl

/-- Capturing does not touch a node left over. -/
@[simp] theorem capture_eq_leftover {name : String} {v : Verdict ν} {tail : ν} :
    v.capture name = leftover tail ↔ v = leftover tail := by
  rcases v with e | _ | k | ⟨_ | value, captures⟩ <;> simp [capture]

/-- Capturing does not touch an error. -/
@[simp] theorem capture_eq_error {name : String} {v : Verdict ν} {e : MatchError} :
    v.capture name = error e ↔ v = error e := by
  rcases v with e | _ | k | ⟨_ | value, captures⟩ <;> simp [capture]

end Verdict

/-! ### The rules -/

section rules

variable {ν : Type} (t : Tree ν) (limit : Nat)

/-- What a pattern comes to at a position and at a depth, where no pattern may nest deeper than
the limit. -/
inductive ComesTo : Pattern → Option ν → Nat → Verdict ν → Prop where
  /-- Beyond the limit nothing is looked at. -/
  | tooDeep {p position depth} (h : limit < depth) :
      ComesTo p position depth (.error (.depthLimitExceeded limit))
  /-- The empty pattern fits where there is no node. -/
  | atEnd {depth} (h : depth ≤ limit) : ComesTo .absent none depth (.matched none [])
  /-- The empty pattern leaves over the node that there is. -/
  | atNode {n depth} (h : depth ≤ limit) : ComesTo .absent (some n) depth (.leftover n)
  /-- A construct that needs a nested pattern has none. -/
  | missing {construct next position depth} (h : depth ≤ limit) (hc : construct.needsInner) :
      ComesTo (.node construct .absent next) position depth
        (.error (.missingInner construct.kindName))
  /-- A text node with an accepted text fits, and its text is handed on. -/
  | leafFits {construct child next n accepts text depth} (h : depth ≤ limit)
      (hc : Construct.accepts? construct = some accepts) (hn : t.shownText n = some text)
      (ha : accepts text = true) :
      ComesTo (.node construct child next) (some n) depth (.matched (some text) [])
  /-- No node, a node without text and a text that is not accepted do not fit. -/
  | leafFails {construct child next position accepts depth} (h : depth ≤ limit)
      (hc : Construct.accepts? construct = some accepts)
      (ha : ∀ n text, position = some n → t.shownText n = some text → accepts text = false) :
      ComesTo (.node construct child next) position depth .noMatch
  /-- Skipping stops at a fit or an error. -/
  | skipStop {child next position depth v} (h : depth ≤ limit)
      (hi : ComesTo child position (depth + 1) v) (hv : v.isFailure = false) :
      ComesTo (.node .skipUntil child next) position depth v
  /-- Skipping goes on to the next sibling after a failure. -/
  | skipOn {child next n depth v w} (h : depth ≤ limit)
      (hi : ComesTo child (some n) (depth + 1) v) (hv : v.isFailure)
      (hr : ComesTo (.node .skipUntil child next) (t.next n) depth w) :
      ComesTo (.node .skipUntil child next) (some n) depth w
  /-- Skipping does not fit after a failure behind the last sibling. -/
  | skipEnd {child next depth v} (h : depth ≤ limit)
      (hi : ComesTo child none (depth + 1) v) (hv : v.isFailure) :
      ComesTo (.node .skipUntil child next) none depth .noMatch
  /-- Repeating stops at an attempt that leaves no node over. -/
  | repeatStop {child next position depth v} (h : depth ≤ limit) (hc : child.isAbsent = false)
      (hi : ComesTo child position (depth + 1) v) (hv : v.tail? = none) :
      ComesTo (.node .repetition child next) position depth v
  /-- Repeating starts again at a node left over; what the attempt captured is gone. -/
  | repeatOn {child next position k depth v} (h : depth ≤ limit) (hc : child.isAbsent = false)
      (hi : ComesTo child position (depth + 1) (.leftover k))
      (hr : ComesTo (.node .repetition child next) (some k) depth v) :
      ComesTo (.node .repetition child next) position depth v
  /-- A tag does not fit where there is no element of its name. -/
  | tagOther {name child next position depth} (h : depth ≤ limit)
      (ht : ∀ n, position = some n → t.tag n ≠ some name) :
      ComesTo (.node (.tag name) child next) position depth .noMatch
  /-- A tag comes to what its nested pattern comes to at the children, unless that fits. -/
  | tagChild {name child next n depth v} (h : depth ≤ limit) (ht : t.tag n = some name)
      (hi : ComesTo child (t.child n) (depth + 1) v) (hv : v.isMatch = false) :
      ComesTo (.node (.tag name) child next) (some n) depth v
  /-- After that it comes to what its continuation comes to at the siblings, unless that fits. -/
  | tagNext {name child next n depth value captures v} (h : depth ≤ limit)
      (ht : t.tag n = some name)
      (hi : ComesTo child (t.child n) (depth + 1) (.matched value captures))
      (hr : ComesTo next (t.next n) depth v) (hv : v.isMatch = false) :
      ComesTo (.node (.tag name) child next) (some n) depth v
  /-- A tag fits where both fit; it hands on no text and keeps the captures of both. -/
  | tagFits {name child next n depth value captures value' captures'} (h : depth ≤ limit)
      (ht : t.tag n = some name)
      (hi : ComesTo child (t.child n) (depth + 1) (.matched value captures))
      (hr : ComesTo next (t.next n) depth (.matched value' captures')) :
      ComesTo (.node (.tag name) child next) (some n) depth (.matched none (captures ++ captures'))
  /-- A scope comes to what its nested pattern comes to. -/
  | scope {child next position depth v} (h : depth ≤ limit) (hc : child.isAbsent = false)
      (hi : ComesTo child position (depth + 1) v) :
      ComesTo (.node .scope child next) position depth v
  /-- Binding captures the text that its nested pattern hands on, after what that captured. -/
  | bind {name child next position depth v} (h : depth ≤ limit) (hc : child.isAbsent = false)
      (hi : ComesTo child position (depth + 1) v) :
      ComesTo (.node (.bind name) child next) position depth (v.capture name)

end rules

variable {ν : Type} {t : Tree ν} {limit : Nat} {p child next : Pattern} {position : Option ν}
  {depth : Nat} {v w : Verdict ν}

/-! ### What is left over lies ahead -/

/-- Where the node lies that a pattern leaves over. -/
theorem ComesTo.leavesOver {k : ν} (h : ComesTo t limit p position depth v)
    (hv : v = .leftover k) : LeavesOver t p position (.leftover k) := by
  induction h generalizing k with
  | tooDeep | atEnd | missing | leafFits | leafFails | skipEnd | tagOther | tagFits => cases hv
  | atNode =>
    cases hv
    rfl
  | skipStop _ _ hf => simp [hv] at hf
  | skipOn _ _ _ _ _ ih => exact .intro (LeavesOver.ahead_of_next (ih hv))
  | repeatStop _ _ _ ht => simp [hv] at ht
  | repeatOn _ hc _ _ ihi ihr =>
    have first := (ihi rfl).ahead hc
    have later := (ihr hv).ahead rfl
    exact .intro (first.trans later)
  | tagChild _ _ _ _ ih => exact .intro (LeavesOver.ahead_of_child (ih hv))
  | tagNext _ _ _ _ _ _ ih => exact .intro (LeavesOver.ahead_of_next (ih hv))
  | scope _ hc _ ih => exact .intro ((ih hv).ahead hc)
  | bind _ hc _ ih => exact .intro ((ih (Verdict.capture_eq_leftover.1 hv)).ahead hc)

/-- A node that a non-empty pattern leaves over lies ahead of where the pattern was tried. -/
theorem ComesTo.ahead {k : ν} (h : ComesTo t limit p position depth (.leftover k))
    (hp : p.isAbsent = false) : t.Ahead position k :=
  (h.leavesOver rfl).ahead hp

/-! ### Every pattern comes to something -/

/-- Skipping comes to something when its nested pattern does at every position. -/
theorem exists_comesTo_skipUntil (h : depth ≤ limit)
    (inner : ∀ position, ∃ v, ComesTo t limit child position (depth + 1) v) :
    ∀ position, ∃ v, ComesTo t limit (.node .skipUntil child next) position depth v := by
  have last : ∃ v, ComesTo t limit (.node .skipUntil child next) none depth v := by
    obtain ⟨v, hv⟩ := inner none
    cases hf : v.isFailure with
    | true => exact ⟨_, .skipEnd h hv hf⟩
    | false => exact ⟨v, .skipStop h hv hf⟩
  intro position
  cases position with
  | none => exact last
  | some n =>
    -- the siblings behind `n` come before `n` in the order of links
    induction n using t.finite.induction with
    | _ n ih =>
      obtain ⟨v, hv⟩ := inner (some n)
      cases hf : v.isFailure with
      | false => exact ⟨v, .skipStop h hv hf⟩
      | true =>
        have behind : ∃ w, ComesTo t limit (.node .skipUntil child next) (t.next n) depth w := by
          cases hn : t.next n with
          | none => exact last
          | some m => exact ih m (.inr hn)
        obtain ⟨w, hw⟩ := behind
        exact ⟨w, .skipOn h hv hf hw⟩

/-- Repeating comes to something when its nested pattern does at every position. -/
theorem exists_comesTo_repetition (h : depth ≤ limit) (hc : child.isAbsent = false)
    (inner : ∀ position, ∃ v, ComesTo t limit child position (depth + 1) v) :
    ∀ position, ∃ v, ComesTo t limit (.node .repetition child next) position depth v := by
  intro position
  -- an attempt ends the search unless it leaves over a node, which lies ahead
  have attempt : ∀ position : Option ν,
      (∀ k, t.Ahead position k →
        ∃ v, ComesTo t limit (.node .repetition child next) (some k) depth v) →
      ∃ v, ComesTo t limit (.node .repetition child next) position depth v := by
    intro position again
    obtain ⟨v, hv⟩ := inner position
    cases hk : v.tail? with
    | none => exact ⟨v, .repeatStop h hc hv hk⟩
    | some k =>
      obtain rfl : v = .leftover k := by
        cases v <;> simp_all [Verdict.tail?]
      obtain ⟨w, hw⟩ := again k (hv.ahead hc)
      exact ⟨w, .repeatOn h hc hv hw⟩
  cases position with
  | none => exact attempt none fun k hk => absurd hk Tree.not_ahead_none
  | some n =>
    induction n using t.ahead_wellFounded.induction with
    | _ n ih => exact attempt (some n) fun k hk => ih k (Tree.ahead_some.1 hk)

/-- A tag comes to something when its nested pattern and its continuation do. -/
theorem exists_comesTo_tag {name : String} (h : depth ≤ limit)
    (inner : ∀ position, ∃ v, ComesTo t limit child position (depth + 1) v)
    (rest : ∀ position, ∃ v, ComesTo t limit next position depth v) (position : Option ν) :
    ∃ v, ComesTo t limit (.node (.tag name) child next) position depth v := by
  cases position with
  | none => exact ⟨_, .tagOther h nofun⟩
  | some n =>
    by_cases ht : t.tag n = some name
    · obtain ⟨v, hv⟩ := inner (t.child n)
      cases v with
      | matched value captures =>
        obtain ⟨w, hw⟩ := rest (t.next n)
        cases w with
        | matched value' captures' => exact ⟨_, .tagFits h ht hv hw⟩
        | _ => exact ⟨_, .tagNext h ht hv hw rfl⟩
      | _ => exact ⟨_, .tagChild h ht hv rfl⟩
    · refine ⟨_, .tagOther h fun m hm => ?_⟩
      cases hm
      exact ht

/-- A construct for single text nodes comes to something. -/
theorem exists_comesTo_leaf {construct : Construct} {accepts : String → Bool} (h : depth ≤ limit)
    (hc : construct.accepts? = some accepts) :
    ∃ v, ComesTo t limit (.node construct child next) position depth v := by
  cases position with
  | none => exact ⟨_, .leafFails h hc nofun⟩
  | some n =>
    rcases hn : t.shownText n with _ | text
    · exact ⟨_, .leafFails h hc fun m s hm hs => by cases hm; simp [hn] at hs⟩
    · cases ha : accepts text with
      | true => exact ⟨_, .leafFits h hc hn ha⟩
      | false => exact ⟨_, .leafFails h hc fun m s hm hs => by cases hm; simp_all⟩

/-- Every pattern comes to something at every position, by induction on the pattern. -/
theorem exists_comesTo (t : Tree ν) (limit : Nat) :
    ∀ (p : Pattern) (position : Option ν) (depth : Nat), ∃ v, ComesTo t limit p position depth v
  | .absent, position, depth => by
    rcases Nat.lt_or_ge limit depth with h | h
    · exact ⟨_, .tooDeep h⟩
    · cases position with
      | none => exact ⟨_, .atEnd h⟩
      | some n => exact ⟨_, .atNode h⟩
  | .node construct child next, position, depth => by
    rcases Nat.lt_or_ge limit depth with h | h
    · exact ⟨_, .tooDeep h⟩
    have inner := fun position => exists_comesTo t limit child position (depth + 1)
    have rest := fun position => exists_comesTo t limit next position depth
    by_cases hm : construct.needsInner = true ∧ child = .absent
    · obtain ⟨hm, rfl⟩ := hm
      exact ⟨_, .missing h hm⟩
    have present (hn : construct.needsInner = true) : child.isAbsent = false := by
      cases child with
      | absent => exact absurd ⟨hn, rfl⟩ hm
      | node => rfl
    obtain ⟨v, hv⟩ := inner position
    cases construct with
    | skipUntil => exact exists_comesTo_skipUntil h inner position
    | repetition => exact exists_comesTo_repetition h (present rfl) inner position
    | tag name => exact exists_comesTo_tag h inner rest position
    | text literal => exact exists_comesTo_leaf h rfl
    | regex e => exact exists_comesTo_leaf h rfl
    | scope => exact ⟨_, .scope h (present rfl) hv⟩
    | bind name => exact ⟨_, .bind h (present rfl) hv⟩

/-! ### Reading the rules backwards -/

namespace ComesTo

/-- Beyond the limit nothing is looked at. -/
theorem eq_of_lt (h : ComesTo t limit p position depth v) (hl : limit < depth) :
    v = .error (.depthLimitExceeded limit) := by
  cases h <;> first | rfl | omega

/-- A construct that needs a nested pattern and has none comes to an error that names it. -/
theorem missing_inv {construct : Construct}
    (h : ComesTo t limit (.node construct .absent next) position depth v) (hd : depth ≤ limit)
    (hc : construct.needsInner = true) : v = .error (.missingInner construct.kindName) := by
  cases h with
  | tooDeep => omega
  | missing => rfl
  | leafFits _ ha | leafFails _ ha =>
    rw [Construct.needsInner_of_accepts? ha] at hc
    cases hc
  | skipStop | skipOn | skipEnd | tagOther | tagChild | tagNext | tagFits => cases hc
  | repeatStop _ hp | repeatOn _ hp | scope _ hp | bind _ hp => cases hp

/-- A construct for single text nodes fits at a text that it accepts and nowhere else. -/
theorem leaf_inv {construct : Construct} {accepts : String → Bool}
    (h : ComesTo t limit (.node construct child next) position depth v) (hd : depth ≤ limit)
    (hc : construct.accepts? = some accepts) :
    (∃ n text, position = some n ∧ t.shownText n = some text ∧ accepts text = true ∧
        v = .matched (some text) []) ∨
      v = .noMatch ∧
        ∀ n text, position = some n → t.shownText n = some text → accepts text = false := by
  cases h with
  | tooDeep => omega
  | missing _ hm =>
    rw [Construct.needsInner_of_accepts? hc] at hm
    cases hm
  | @leafFits _ _ _ n _ text _ _ hc' hn ha =>
    cases hc.symm.trans hc'
    exact .inl ⟨n, text, rfl, hn, ha, rfl⟩
  | leafFails _ hc' ha =>
    cases hc.symm.trans hc'
    exact .inr ⟨rfl, ha⟩
  | _ => cases hc

/-- Skipping tries its nested pattern. It stops there unless that fails, and then goes on to the
next sibling, if there is one. -/
theorem skipUntil_inv (h : ComesTo t limit (.node .skipUntil child next) position depth v)
    (hd : depth ≤ limit) :
    ∃ w, ComesTo t limit child position (depth + 1) w ∧
      (w.isFailure = false ∧ v = w ∨
        w.isFailure = true ∧ (position = none ∧ v = .noMatch ∨
          ∃ n, position = some n ∧
            ComesTo t limit (.node .skipUntil child next) (t.next n) depth v)) := by
  cases h with
  | tooDeep => omega
  | missing _ hx | leafFits _ hx | leafFails _ hx => cases hx
  | skipStop _ hi hf => exact ⟨v, hi, .inl ⟨hf, rfl⟩⟩
  | @skipOn _ _ n _ w _ _ hi hf hr => exact ⟨w, hi, .inr ⟨hf, .inr ⟨n, rfl, hr⟩⟩⟩
  | @skipEnd _ _ _ w _ hi hf => exact ⟨w, hi, .inr ⟨hf, .inl ⟨rfl, rfl⟩⟩⟩

/-- Repeating tries its nested pattern. It starts again at a node that is left over and stops
otherwise. -/
theorem repetition_inv (h : ComesTo t limit (.node .repetition child next) position depth v)
    (hd : depth ≤ limit) (hc : child.isAbsent = false) :
    ∃ w, ComesTo t limit child position (depth + 1) w ∧
      (w.tail? = none ∧ v = w ∨
        ∃ k, w = .leftover k ∧
          ComesTo t limit (.node .repetition child next) (some k) depth v) := by
  cases h with
  | tooDeep => omega
  | missing => cases hc
  | leafFits _ hx | leafFails _ hx => cases hx
  | repeatStop _ _ hi hk => exact ⟨v, hi, .inl ⟨hk, rfl⟩⟩
  | @repeatOn _ _ _ k _ _ _ _ hi hr => exact ⟨_, hi, .inr ⟨k, rfl, hr⟩⟩

/-- A tag looks at the name of the node, then at its children, then at its siblings, and comes to
the first thing that is no fit. -/
theorem tag_inv {name : String}
    (h : ComesTo t limit (.node (.tag name) child next) position depth v) (hd : depth ≤ limit) :
    ((∀ n, position = some n → t.tag n ≠ some name) ∧ v = .noMatch) ∨
      ∃ n w, position = some n ∧ t.tag n = some name ∧
        ComesTo t limit child (t.child n) (depth + 1) w ∧
        (w.isMatch = false ∧ v = w ∨
          ∃ value captures w', w = .matched value captures ∧
            ComesTo t limit next (t.next n) depth w' ∧
            (w'.isMatch = false ∧ v = w' ∨
              ∃ value' captures', w' = .matched value' captures' ∧
                v = .matched none (captures ++ captures'))) := by
  cases h with
  | tooDeep => omega
  | missing _ hx | leafFits _ hx | leafFails _ hx => cases hx
  | tagOther _ ht => exact .inl ⟨ht, rfl⟩
  | @tagChild _ _ _ n _ _ _ ht hi hv =>
    exact .inr ⟨n, v, rfl, ht, hi, .inl ⟨hv, rfl⟩⟩
  | @tagNext _ _ _ n _ value captures _ _ ht hi hr hv =>
    exact .inr ⟨n, _, rfl, ht, hi, .inr ⟨value, captures, v, rfl, hr, .inl ⟨hv, rfl⟩⟩⟩
  | @tagFits _ _ _ n _ value captures value' captures' _ ht hi hr =>
    exact .inr ⟨n, _, rfl, ht, hi,
      .inr ⟨value, captures, _, rfl, hr, .inr ⟨value', captures', rfl, rfl⟩⟩⟩

/-- A scope comes to what its nested pattern comes to. -/
theorem scope_inv (h : ComesTo t limit (.node .scope child next) position depth v)
    (hd : depth ≤ limit) (hc : child.isAbsent = false) :
    ComesTo t limit child position (depth + 1) v := by
  cases h with
  | tooDeep => omega
  | missing => cases hc
  | leafFits _ hx | leafFails _ hx => cases hx
  | scope _ _ hi => exact hi

/-- A binding comes to what its nested pattern comes to, with the text captured. -/
theorem bind_inv {name : String}
    (h : ComesTo t limit (.node (.bind name) child next) position depth v)
    (hd : depth ≤ limit) (hc : child.isAbsent = false) :
    ∃ w, ComesTo t limit child position (depth + 1) w ∧ v = w.capture name := by
  cases h with
  | tooDeep => omega
  | missing => cases hc
  | leafFits _ hx | leafFails _ hx => cases hx
  | bind _ _ hi => exact ⟨_, hi, rfl⟩

/-! ### It comes to one thing only -/

/-- A pattern comes to one thing only. -/
theorem unique (h : ComesTo t limit p position depth v) (h' : ComesTo t limit p position depth w) :
    v = w := by
  induction h generalizing w with
  | tooDeep h => exact (h'.eq_of_lt h).symm
  | atEnd h => cases h' with
    | tooDeep => omega
    | atEnd => rfl
  | atNode h => cases h' with
    | tooDeep => omega
    | atNode => rfl
  | missing h hc => exact (h'.missing_inv h hc).symm
  | leafFits h hc hn ha =>
    rcases h'.leaf_inv h hc with ⟨n, text, hm, ht, -, rfl⟩ | ⟨-, hf⟩
    · cases hm
      cases hn.symm.trans ht
      rfl
    · cases ha.symm.trans (hf _ _ rfl hn)
  | leafFails h hc hf =>
    rcases h'.leaf_inv h hc with ⟨n, text, hm, ht, ha, -⟩ | ⟨rfl, -⟩
    · cases ha.symm.trans (hf n text hm ht)
    · rfl
  | skipStop h _ hf ih =>
    obtain ⟨w', hi, ⟨-, rfl⟩ | ⟨hf', -⟩⟩ := h'.skipUntil_inv h
    · exact ih hi
    · cases ih hi
      cases hf.symm.trans hf'
  | skipOn h _ hf _ ihi ihr =>
    obtain ⟨w', hi, ⟨hf', -⟩ | ⟨-, ⟨hm, -⟩ | ⟨n, hm, hr⟩⟩⟩ := h'.skipUntil_inv h
    · cases ihi hi
      cases hf.symm.trans hf'
    · cases hm
    · cases hm
      exact ihr hr
  | skipEnd h _ hf ih =>
    obtain ⟨w', hi, ⟨hf', -⟩ | ⟨-, ⟨-, rfl⟩ | ⟨n, hm, -⟩⟩⟩ := h'.skipUntil_inv h
    · cases ih hi
      cases hf.symm.trans hf'
    · rfl
    · cases hm
  | repeatStop h hc _ hk ih =>
    obtain ⟨w', hi, ⟨-, rfl⟩ | ⟨k, rfl, -⟩⟩ := h'.repetition_inv h hc
    · exact ih hi
    · cases ih hi
      cases hk
  | repeatOn h hc _ _ ihi ihr =>
    obtain ⟨w', hi, ⟨hk, -⟩ | ⟨k, rfl, hr⟩⟩ := h'.repetition_inv h hc
    · cases ihi hi
      cases hk
    · cases ihi hi
      exact ihr hr
  | tagOther h ht =>
    obtain ⟨-, rfl⟩ | ⟨n, -, hm, ht', -⟩ := h'.tag_inv h
    · rfl
    · exact absurd ht' (ht n hm)
  | tagChild h ht _ hv ih =>
    obtain ⟨ht', -⟩ | ⟨n, w', hm, -, hi, hw⟩ := h'.tag_inv h
    · exact absurd ht (ht' _ rfl)
    · cases hm
      cases ih hi
      obtain ⟨-, rfl⟩ | ⟨value, captures, w', rfl, -⟩ := hw
      · rfl
      · cases hv
  | tagNext h ht _ _ hv ihi ihr =>
    obtain ⟨ht', -⟩ | ⟨n, w', hm, -, hi, hw⟩ := h'.tag_inv h
    · exact absurd ht (ht' _ rfl)
    · cases hm
      cases ihi hi
      obtain ⟨hv', -⟩ | ⟨_, _, w', -, hr, ⟨-, rfl⟩ | ⟨_, _, rfl, -⟩⟩ := hw
      · cases hv'
      · exact ihr hr
      · cases ihr hr
        cases hv
  | tagFits h ht _ _ ihi ihr =>
    obtain ⟨ht', -⟩ | ⟨n, w', hm, -, hi, hw⟩ := h'.tag_inv h
    · exact absurd ht (ht' _ rfl)
    · cases hm
      cases ihi hi
      obtain ⟨hv', -⟩ | ⟨_, _, w', hw', hr, ⟨hv', -⟩ | ⟨_, _, rfl, rfl⟩⟩ := hw
      · cases hv'
      · cases ihr hr
        cases hv'
      · cases hw'
        cases ihr hr
        rfl
  | scope h hc _ ih => exact ih (h'.scope_inv h hc)
  | bind h hc _ ih =>
    obtain ⟨w', hi, rfl⟩ := h'.bind_inv h hc
    rw [ih hi]

end ComesTo

end TreePattern
