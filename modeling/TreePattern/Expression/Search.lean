import TreePattern.Expression.Shape

/-!
# Searching texts

A shape takes a text from one place to another, places being the gaps between characters. Whether an
expression occurs is found by following all places at once: a set of places is a number whose bits
say which places are in it, and a shape sends the set of the places it may begin at to the set of
the places it may end at. A repetition goes round as long as it reaches new places.

* `Shape.occursIn`: whether a shape occurs anywhere in a text.
-/

namespace TreePattern.Expression

/-- A set of places of a text: bit `i` is the place before the character with number `i`. -/
abbrev Places := Nat

/-- The set of the places from `low` on, `count` of them, for which a test says so; the place `low`
becomes bit zero. -/
def placesWhere (test : Nat → Bool) (low count : Nat) : Places :=
  if count ≤ 1 then
    if count == 1 && test low then 1 else 0
  else
    let half := count / 2
    placesWhere test low half ||| (placesWhere test (low + half) (count - half) <<< half)
termination_by count

/-- Whether a character, if there is one, is a word character. -/
def isWordAt (unicode : Bool) : Option Char → Bool
  | none => false
  | some c => if unicode then Unicode.word.has c else c.isAlphanum || c == '_'

/-- Whether a condition holds between two characters, either of which may be missing. -/
def Look.holds (left right : Option Char) : Look → Bool
  | textStart => left.isNone
  | textEnd => right.isNone
  | lineStart false => left.isNone || left == some '\n'
  | lineStart true =>
    left.isNone || left == some '\n' || (left == some '\r' && right != some '\n')
  | lineEnd false => right.isNone || right == some '\n'
  | lineEnd true =>
    right.isNone || right == some '\r' || (right == some '\n' && left != some '\r')
  | words condition unicode => condition (isWordAt unicode left) (isWordAt unicode right)

/-- A shape laid out for one text: where its conditions hold and its characters stand. -/
inductive Plan where
  /-- Stays at these places. -/
  | stay (places : Places)
  /-- Moves on by one character from these places. -/
  | move (places : Places)
  /-- One plan and then the other. -/
  | seq (first second : Plan)
  /-- One plan or the other. -/
  | alt (left right : Plan)
  /-- A plan several times. -/
  | repetition (low : Nat) (high : Option Nat) (body : Plan)

/-- Lays a shape out for a text. -/
def Shape.plan (text : Array Char) : Shape → Plan
  | empty => .stay (placesWhere (fun _ => true) 0 (text.size + 1))
  | set s => .move (placesWhere (fun i => (text[i]?.map s.has).getD false) 0 text.size)
  | look l =>
    .stay (placesWhere (fun i => l.holds (if i = 0 then none else text[i - 1]?) text[i]?) 0
      (text.size + 1))
  | seq first second => .seq (first.plan text) (second.plan text)
  | alt left right => .alt (left.plan text) (right.plan text)
  | repetition low high body => .repetition low high (body.plan text)
  | capture body => body.plan text

namespace Plan

/-- Goes round a number of times, or until nothing changes any more. -/
def iterate (round : Places → Places) : Nat → Places → Places
  | 0, places => places
  | count + 1, places =>
    let next := round places
    if next = places then places else iterate round count next

/-- Adds what is reached by going round up to a number of times, always from the new places on. -/
def spread (round : Places → Places) : Nat → Places → Places → Places
  | 0, reached, _ => reached
  | count + 1, reached, fresh =>
    let found := (round fresh ||| reached) ^^^ reached
    if found = 0 then reached else spread round count (reached ||| found) found

/-- The places where a plan may end, given those where it may begin, in a text of `size`
characters. An unbounded repetition reaches all it can in as many rounds as there are places. -/
def run (size : Nat) : Plan → Places → Places
  | stay places, starts => starts &&& places
  | move places, starts => (starts &&& places) <<< 1
  | seq first second, starts => second.run size (first.run size starts)
  | alt left right, starts => left.run size starts ||| right.run size starts
  | repetition low high body, starts =>
    let reached := iterate (body.run size) low starts
    spread (body.run size) ((high.map (· - low)).getD (size + 1)) reached reached

end Plan

/-- Whether a shape occurs anywhere in a text. -/
def Shape.occursIn (shape : Shape) (text : String) : Bool :=
  let chars := text.toList.toArray
  let everywhere := placesWhere (fun _ => true) 0 (chars.size + 1)
  (shape.plan chars).run chars.size everywhere != 0

end TreePattern.Expression
