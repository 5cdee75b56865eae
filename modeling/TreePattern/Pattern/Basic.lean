import TreePattern.Expression.Compile

/-!
# Patterns

A pattern says what a list of siblings should look like. Each of its nodes is a construct with two
slots: a nested pattern, for what lies inside the construct or what it is applied to, and a
continuation, for what follows right behind it on the same level. Either slot may be empty, so the
empty pattern is a pattern too, and a pattern is a binary tree of constructs.

* `Pattern.sequence`: several patterns one behind the other.
* `Pattern.sequence_cons`: each one's continuation is the sequence of those behind it.
-/

namespace TreePattern

/-- What one node of a pattern asks for. -/
inductive Construct where
  /-- The nested pattern at this place or at one of the siblings behind it. -/
  | skipUntil
  /-- The nested pattern over and over, each time from where it ran out, until it fits. -/
  | repetition
  /-- An element with exactly this tag name. -/
  | tag (name : String)
  /-- A text node with exactly this text. -/
  | text (literal : String)
  /-- A text node in whose text the expression occurs. -/
  | regex (expression : Expression)
  /-- The nested pattern, its captures in a frame of their own. -/
  | scope
  /-- The nested pattern, and its text captured under this name. -/
  | bind (name : String)

namespace Construct

/-- The name of the kind of construct. -/
def kindName : Construct → String
  | skipUntil => "skip-until"
  | repetition => "repeat"
  | tag _ => "tag"
  | text _ => "text"
  | regex _ => "regex"
  | scope => "scope"
  | bind _ => "bind"

/-- The text that a construct carries: a name, a text, or an expression as it was written. -/
def payload? : Construct → Option String
  | tag name => some name
  | text literal => some literal
  | regex expression => some expression.source
  | bind name => some name
  | _ => none

end Construct

/-- A pattern: empty, or a construct with a nested pattern and a continuation. -/
inductive Pattern where
  /-- The pattern that asks for the end. -/
  | absent
  /-- A construct with its nested pattern and its continuation. -/
  | node (construct : Construct) (child next : Pattern)
  deriving Inhabited

namespace Pattern

/-- Whether the pattern is empty. -/
def isAbsent : Pattern → Bool
  | absent => true
  | node .. => false

/-- A construct by itself. -/
def ofConstruct (construct : Construct) : Pattern := node construct absent absent

/-- The pattern for the expression that is written in a text, if it is one. -/
def ofSource? (source : String) : Option Pattern :=
  (Expression.ofSource? source).map fun e => ofConstruct (.regex e)

/-- The same pattern with another nested pattern in its first node. -/
def withChild : Pattern → Pattern → Pattern
  | absent, _ => absent
  | node construct _ next, child => node construct child next

/-- The same pattern with another continuation of its first node. -/
def withNext : Pattern → Pattern → Pattern
  | absent, _ => absent
  | node construct child _, next => node construct child next

/-- The patterns one behind the other; what each was continued by before is given up. -/
def sequence (patterns : List Pattern) : Pattern := patterns.foldr withNext absent

/-! ### Sequences -/

@[simp] theorem sequence_nil : sequence [] = absent := rfl

/-- Each pattern's continuation is the sequence of those behind it. -/
@[simp] theorem sequence_cons (p : Pattern) (ps : List Pattern) :
    sequence (p :: ps) = p.withNext (sequence ps) := rfl

end Pattern

end TreePattern
