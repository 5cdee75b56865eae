import TreePattern.Expression.Shape
import TreePattern.Unicode.Encoding

/-!
# Sizes of expressions

An expression stands for two machines that read bytes, one from the front and one from the back, and
each takes up room: so many bytes for a state, and some more for each way out of a state that has
several. A counted repetition is laid out copy by copy, so short expressions can be huge. An
expression is refused when either machine would be larger than the limit; the sizes follow from the
shape, and no machine is built.

* `Shape.fits`: whether both machines of a shape stay within the limit.
-/

namespace TreePattern.Expression

/-- The end of the text from which a machine reads. -/
inductive Direction where
  /-- From the front; this machine also tells where captures are. -/
  | forward
  /-- From the back. -/
  | backward
  deriving DecidableEq

/-! ### Room for the parts of a machine -/

/-- The bytes that a state takes. -/
def stateSize : Nat := 32

/-- The bytes for a state with several ways out that are told apart by the byte read. -/
def branchSize (ways : Nat) : Nat := stateSize + 8 * ways

/-- The bytes for a state with several ways out that are all taken at once. -/
def forkSize (ways : Nat) : Nat := stateSize + 4 * ways

/-- The bytes for a set of characters. One character is a state for each of its bytes, and ASCII
characters take one state and its end. Of any other set the sequences are read: from the front by a
state for each point where they go on differently; from the back by one for each step, where steps
that lead on to the same are shared, with one fork that leads to all sequences. -/
def setSize (direction : Direction) (s : CodeSet) : Nat :=
  if s.isEmpty then stateSize
  else
    let sequences := s.byteRanges
    match s.ranges, sequences with
    | [(low, high)], [bytes] =>
      if low == high then stateSize * bytes.length else bytesSize sequences
    | _, _ => bytesSize sequences
where
  /-- The bytes for sequences of byte ranges. -/
  bytesSize (sequences : List (List CodeSet.ByteRange)) : Nat :=
    let count := sequences.length
    if sequences.all (·.length == 1) then stateSize + branchSize count
    else match direction with
      | .forward =>
        (CodeSet.points sequences).foldl (fun size point => size + branchSize point.length)
          stateSize
      | .backward =>
        forkSize count + stateSize + stateSize * CodeSet.countBeginnings [] sequences

/-- The bytes for what stands around the machine proper: the loop that finds where to begin, and the
state at the end. -/
def frameSize : Nat := stateSize + branchSize 1 + forkSize 2 + stateSize

/-- The greatest size of a machine: ten times 1024 times 1024 bytes. -/
def sizeLimit : Nat := 10485760

namespace Shape

/-- Whether a shape always takes a character. -/
def takesCharacter : Shape → Bool
  | empty => false
  | set s => !s.isEmpty
  | look _ => false
  | seq first second => first.takesCharacter || second.takesCharacter
  | alt left right => left.takesCharacter && right.takesCharacter
  | repetition low _ body => low != 0 && body.takesCharacter
  | capture body => body.takesCharacter

/-- The bytes for a repetition of something that takes `body` bytes, and that always takes a
character or not. -/
def repetitionSize (body : Nat) (takes : Bool) (low : Nat) (high : Option Nat) : Nat :=
  let copies (count : Nat) : Nat := if count = 0 then stateSize else count * body
  match high with
  | none =>
    if low = 0 then
      if takes then forkSize 2 + body else body + 2 * forkSize 2 + stateSize
    else copies low + forkSize 2
  | some high =>
    if low = high then copies low
    else if low = 0 ∧ high = 1 then forkSize 2 + body + stateSize
    else copies low + stateSize + (high - low) * (forkSize 2 + body)

/-- The bytes for a shape. Under `arm` the shape is one of several that a fork leads to, and what
the fork needs for it is counted in. -/
def size (direction : Direction) (arm : Bool) : Shape → Nat
  | empty => stateSize + way
  | set s => setSize direction s + way
  | look _ => stateSize + way
  | seq first second => first.size direction false + second.size direction false + way
  | alt left right =>
    left.size direction true + right.size direction true +
      if arm then 0 else forkSize 0 + stateSize
  | repetition low high body =>
    repetitionSize (body.size direction false) body.takesCharacter low high + way
  | capture body =>
    body.size direction false + way +
      match direction with
      | .forward => 2 * stateSize
      | .backward => 0
where
  /-- What a fork needs for one more way out. -/
  way : Nat := if arm then 4 else 0

/-- Whether both machines of a shape stay within the limit. The whole is a capture too. -/
def fits (s : Shape) : Bool :=
  [Direction.forward, .backward].all fun direction =>
    (capture s).size direction false + frameSize ≤ sizeLimit

end Shape

end TreePattern.Expression
