import TreePattern.Match.Outcome

/-!
# The two searches of a matcher

Some constructs try a pattern at one position after the other. Skipping tries it at every sibling in
turn and last behind them all, until it fits. Repeating tries it again from wherever it ran out,
until it fits to the end or does not fit. The pattern to try is known by its answers. An answer
carries the evidence that its outcome has some property: a repeated pattern must vouch that the
node it leaves over lies ahead, which is why repeating ends.

* `skipFrom_eq`: an answer at one position, or else the search from the next one.
* `repeatFrom_eq`: an answer at one position, or else the search from the node left over.
-/

namespace TreePattern

variable {ν : Type}

/-- An answer whose outcome is known to have a property. -/
abbrev Vouched (P : Outcome ν → Prop) := Except MatchError { a : Outcome ν × Chain // P a.1 }

/-- The answer without the evidence. -/
def Vouched.answer {Q : Outcome ν → Prop} (a : Vouched Q) : Answer ν := a.map (·.val)

variable (t : Tree ν) {P : Option ν → Outcome ν → Prop} {Q : Outcome ν → Prop}

/-! ### Skipping -/

/-- Tries a pattern at a node, then at the siblings behind it, and last behind them all. -/
def skipFromNode (attempt : (position : Option ν) → Vouched (P position)) (chain : Chain)
    (hmatched : ∀ value, Q (.matched value)) (hnoMatch : Q .noMatch) (n : ν) : Vouched Q :=
  match attempt (some n) with
  | .error e => .error e
  | .ok ⟨(.matched value, c), _⟩ => .ok ⟨(.matched value, c), hmatched value⟩
  | .ok _ =>
    match _h : t.next n with
    | some m => skipFromNode attempt chain hmatched hnoMatch m
    | none =>
      match attempt none with
      | .error e => .error e
      | .ok ⟨(.matched value, c), _⟩ => .ok ⟨(.matched value, c), hmatched value⟩
      | .ok _ => .ok ⟨(.noMatch, chain), hnoMatch⟩
termination_by t.finite.wrap n
decreasing_by exact .inr ‹_›

/-- Tries a pattern at a position, then at the siblings behind it, and last behind them all. -/
def skipFrom (attempt : (position : Option ν) → Vouched (P position)) (chain : Chain)
    (hmatched : ∀ value, Q (.matched value)) (hnoMatch : Q .noMatch) :
    Option ν → Vouched Q
  | some n => skipFromNode t attempt chain hmatched hnoMatch n
  | none =>
    match attempt none with
    | .error e => .error e
    | .ok ⟨(.matched value, c), _⟩ => .ok ⟨(.matched value, c), hmatched value⟩
    | .ok _ => .ok ⟨(.noMatch, chain), hnoMatch⟩

/-! ### Repeating -/

/-- Tries a pattern at a node, and again from every node ahead that it leaves over. -/
def repeatFromNode (attempt : (position : Option ν) → Vouched (P position)) (chain : Chain)
    (ahead : ∀ position tail, P position (.leftover tail) → t.Ahead position tail)
    (hmatched : ∀ value, Q (.matched value)) (hnoMatch : Q .noMatch) (n : ν) : Vouched Q :=
  match attempt (some n) with
  | .error e => .error e
  | .ok ⟨(.matched value, c), _⟩ => .ok ⟨(.matched value, c), hmatched value⟩
  | .ok ⟨(.noMatch, _), _⟩ => .ok ⟨(.noMatch, chain), hnoMatch⟩
  | .ok ⟨(.leftover m, _), _h⟩ => repeatFromNode attempt chain ahead hmatched hnoMatch m
termination_by t.ahead_wellFounded.wrap n
decreasing_by exact Tree.ahead_some.1 (ahead _ _ ‹_›)

/-- Tries a pattern at a position, and again from every node ahead that it leaves over. -/
def repeatFrom (attempt : (position : Option ν) → Vouched (P position)) (chain : Chain)
    (ahead : ∀ position tail, P position (.leftover tail) → t.Ahead position tail)
    (hmatched : ∀ value, Q (.matched value)) (hnoMatch : Q .noMatch) :
    Option ν → Vouched Q
  | some n => repeatFromNode t attempt chain ahead hmatched hnoMatch n
  | none =>
    match attempt none with
    | .error e => .error e
    | .ok ⟨(.matched value, c), _⟩ => .ok ⟨(.matched value, c), hmatched value⟩
    | .ok ⟨(.noMatch, _), _⟩ => .ok ⟨(.noMatch, chain), hnoMatch⟩
    | .ok ⟨(.leftover _, _), h⟩ => absurd (ahead _ _ h) Tree.not_ahead_none

/-! ### The searches, one attempt at a time -/

variable {t}

/-- Skipping answers as the pattern does where it fits or fails in error; elsewhere it goes on to
the next sibling, and behind the last there is no match. -/
theorem skipFrom_eq (attempt : (position : Option ν) → Vouched (P position)) (chain : Chain)
    (hmatched : ∀ value, Q (.matched value)) (hnoMatch : Q .noMatch) (position : Option ν) :
    skipFrom t attempt chain hmatched hnoMatch position =
      match attempt position with
      | .error e => .error e
      | .ok ⟨(.matched value, c), _⟩ => .ok ⟨(.matched value, c), hmatched value⟩
      | .ok _ =>
        match position with
        | none => .ok ⟨(.noMatch, chain), hnoMatch⟩
        | some n => skipFrom t attempt chain hmatched hnoMatch (t.next n) := by
  cases position with
  | none => rcases h : attempt none with e | ⟨⟨o | m | _, c⟩, hp⟩ <;> simp [skipFrom, h]
  | some n =>
    rw [skipFrom, skipFromNode]
    rcases h : attempt (some n) with e | ⟨⟨o | m | _, c⟩, hp⟩ <;> simp only [skipFrom]
    all_goals split <;> simp_all

/-- Repeating answers as the pattern does where it fits or fails in error; it starts again at a node
left over, and where the pattern does not fit there is no match. -/
theorem repeatFrom_eq (attempt : (position : Option ν) → Vouched (P position)) (chain : Chain)
    (ahead : ∀ position tail, P position (.leftover tail) → t.Ahead position tail)
    (hmatched : ∀ value, Q (.matched value)) (hnoMatch : Q .noMatch) (position : Option ν) :
    repeatFrom t attempt chain ahead hmatched hnoMatch position =
      match attempt position with
      | .error e => .error e
      | .ok ⟨(.matched value, c), _⟩ => .ok ⟨(.matched value, c), hmatched value⟩
      | .ok ⟨(.noMatch, _), _⟩ => .ok ⟨(.noMatch, chain), hnoMatch⟩
      | .ok ⟨(.leftover m, _), _⟩ =>
        repeatFrom t attempt chain ahead hmatched hnoMatch (some m) := by
  cases position with
  | none =>
    rcases h : attempt none with e | ⟨⟨o | m | _, c⟩, hp⟩
    case none.ok.leftover => exact absurd (ahead _ _ hp) Tree.not_ahead_none
    all_goals simp [repeatFrom, h]
  | some n =>
    rw [repeatFrom, repeatFromNode]
    rcases h : attempt (some n) with e | ⟨⟨o | m | _, c⟩, hp⟩ <;> simp [repeatFrom]

/-- What the answers of skipping are does not depend on what they vouch for. -/
theorem answer_skipFrom {Q' : Outcome ν → Prop}
    (attempt : (position : Option ν) → Vouched (P position)) (chain : Chain)
    (hmatched : ∀ value, Q (.matched value)) (hnoMatch : Q .noMatch)
    (hmatched' : ∀ value, Q' (.matched value)) (hnoMatch' : Q' .noMatch) (position : Option ν) :
    (skipFrom t attempt chain hmatched hnoMatch position).answer =
      (skipFrom t attempt chain hmatched' hnoMatch' position).answer := by
  have last : (skipFrom t attempt chain hmatched hnoMatch none).answer =
      (skipFrom t attempt chain hmatched' hnoMatch' none).answer := by
    rw [skipFrom_eq, skipFrom_eq]
    rcases attempt none with e | ⟨⟨o | k | _, c⟩, hp⟩ <;> rfl
  cases position with
  | none => exact last
  | some n =>
    induction n using t.finite.induction with
    | _ n ih =>
      rw [skipFrom_eq, skipFrom_eq attempt chain hmatched']
      rcases attempt (some n) with e | ⟨⟨o | k | _, c⟩, hp⟩ <;> try rfl
      all_goals
        cases h : t.next n with
        | none => simpa [h] using last
        | some m => simpa [h] using ih m (.inr h)

/-- What the answers of repeating are does not depend on what they vouch for. -/
theorem answer_repeatFrom {Q' : Outcome ν → Prop}
    (attempt : (position : Option ν) → Vouched (P position)) (chain : Chain)
    (ahead : ∀ position tail, P position (.leftover tail) → t.Ahead position tail)
    (hmatched : ∀ value, Q (.matched value)) (hnoMatch : Q .noMatch)
    (hmatched' : ∀ value, Q' (.matched value)) (hnoMatch' : Q' .noMatch) (position : Option ν) :
    (repeatFrom t attempt chain ahead hmatched hnoMatch position).answer =
      (repeatFrom t attempt chain ahead hmatched' hnoMatch' position).answer := by
  cases position with
  | none =>
    rw [repeatFrom_eq, repeatFrom_eq attempt chain ahead hmatched']
    rcases attempt none with e | ⟨⟨o | k | _, c⟩, hp⟩
    case error => rfl
    case ok.leftover => exact absurd (ahead _ _ hp) Tree.not_ahead_none
    all_goals rfl
  | some n =>
    induction n using t.ahead_wellFounded.induction with
    | _ n ih =>
      rw [repeatFrom_eq, repeatFrom_eq attempt chain ahead hmatched']
      rcases attempt (some n) with e | ⟨⟨o | k | _, c⟩, hp⟩ <;> try rfl
      exact ih k (Tree.ahead_some.1 (ahead _ _ hp))

end TreePattern
