import TreePattern.Scope.Chain
import TreePattern.Tree

/-!
# Outcomes of a match

Matching a pattern at a position of a tree ends in one of three ways: the pattern fits, with the
text it captured if it is a text pattern; the pattern ran out before the tree did, and some node is
left over; or it does not fit. Two things are errors and no outcomes: a construct without the nested
pattern it needs, and a pattern nested too deep.
-/

namespace TreePattern

/-- How matching a pattern at a position ended. -/
inductive Outcome (ν : Type) where
  /-- The pattern fits; a text pattern hands on the text it was matched with. -/
  | matched (value : Option String)
  /-- The pattern ran out where this node was left. -/
  | leftover (tail : ν)
  /-- The pattern does not fit. -/
  | noMatch
  deriving DecidableEq

namespace Outcome

variable {ν : Type}

/-- Whether the pattern fits. -/
def isMatch : Outcome ν → Bool
  | matched _ => true
  | _ => false

/-- Whether a node was left over. -/
def isPartial : Outcome ν → Bool
  | leftover _ => true
  | _ => false

/-- The text that was captured. -/
def value? : Outcome ν → Option String
  | matched value => value
  | _ => none

/-- The node that was left over. -/
def tail? : Outcome ν → Option ν
  | leftover tail => some tail
  | _ => none

end Outcome

/-- Why matching was given up. -/
inductive MatchError where
  /-- A construct of this kind has no nested pattern to apply. -/
  | missingInner (kind : String)
  /-- The pattern nests deeper than this limit. -/
  | depthLimitExceeded (limit : Nat)
  deriving DecidableEq

/-- What is said about an error. -/
def MatchError.message : MatchError → String
  | missingInner kind => kind ++ " pattern has no inner pattern to match"
  | depthLimitExceeded limit =>
    "match recursion exceeded the depth limit of " ++ toString limit

/-- The outcome of a match with the chain of frames it leaves, or an error. -/
abbrev Answer (ν : Type) := Except MatchError (Outcome ν × Chain)

end TreePattern
