/-!
# Sets of characters

A set of characters is kept by its borders: the increasing list of the code points at which
membership changes, counted from "outside" before zero. A code point belongs to the set when an odd
number of borders lie at or below it. One sweep over the borders of two sets gives every Boolean
combination of them.

* `CodeSet.combine`: the set of what an operation on membership says.
* `CodeSet.ofText`: a set written as code points and ranges in hexadecimal.
-/

namespace TreePattern

/-- A set of characters. -/
structure CodeSet where
  /-- Where membership changes, in increasing order. -/
  borders : Array Nat
  deriving DecidableEq, Inhabited

namespace CodeSet

/-- The greatest code point. -/
def lastCode : Nat := 0x10FFFF

/-- How many borders between `low` and `high` lie at or below a code point, with `low` more. -/
def countUpTo (borders : Array Nat) (code low high : Nat) : Nat :=
  if low < high then
    let middle := (low + high) / 2
    if borders.getD middle 0 ≤ code then countUpTo borders code (middle + 1) high
    else countUpTo borders code low middle
  else low
termination_by high - low

/-- Whether a code point belongs to the set. -/
def hasCode (s : CodeSet) (code : Nat) : Bool :=
  countUpTo s.borders code 0 s.borders.size % 2 == 1

/-- Whether a character belongs to the set. -/
def has (s : CodeSet) (c : Char) : Bool := s.hasCode c.toNat

/-- The borders of a combination, from the point on where the two sets have these memberships. -/
def sweep (op : Bool → Bool → Bool) (a b : Bool) : List Nat → List Nat → List Nat
  | [], [] => []
  | x :: xs, [] => emit x (op a b) (op (!a) b) (sweep op (!a) b xs [])
  | [], y :: ys => emit y (op a b) (op a (!b)) (sweep op a (!b) [] ys)
  | x :: xs, y :: ys =>
    if x < y then emit x (op a b) (op (!a) b) (sweep op (!a) b xs (y :: ys))
    else if y < x then emit y (op a b) (op a (!b)) (sweep op a (!b) (x :: xs) ys)
    else emit x (op a b) (op (!a) (!b)) (sweep op (!a) (!b) xs ys)
termination_by xs ys => xs.length + ys.length
where
  /-- Adds a border where membership changes. -/
  emit (code : Nat) (before after : Bool) (rest : List Nat) : List Nat :=
    if before == after then rest else code :: rest

/-- The membership of code point zero and the borders above it. -/
def split (s : CodeSet) : Bool × List Nat :=
  match s.borders.toList with
  | 0 :: rest => (true, rest)
  | borders => (false, borders)

/-- The set of the code points for which an operation on memberships says so. -/
def combine (op : Bool → Bool → Bool) (s t : CodeSet) : CodeSet :=
  let (a, xs) := s.split
  let (b, ys) := t.split
  let rest := sweep op a b xs ys
  ⟨(if op a b then 0 :: rest else rest).toArray⟩

/-- No character. -/
def empty : CodeSet := ⟨#[]⟩

/-- Every character. -/
def full : CodeSet := ⟨#[0, lastCode + 1]⟩

/-- What belongs to either set. -/
def union : CodeSet → CodeSet → CodeSet := combine (· || ·)

/-- What belongs to both sets. -/
def inter : CodeSet → CodeSet → CodeSet := combine (· && ·)

/-- What belongs to the first set only. -/
def diff : CodeSet → CodeSet → CodeSet := combine fun a b => a && !b

/-- What belongs to exactly one of the sets. -/
def symmDiff : CodeSet → CodeSet → CodeSet := combine fun a b => a != b

/-- What does not belong to the set. -/
def compl (s : CodeSet) : CodeSet := full.diff s

/-- The code points from `low` to `high`. -/
def range (low high : Nat) : CodeSet :=
  if low ≤ high then ⟨#[low, high + 1]⟩ else empty

/-- The set of one character. -/
def single (c : Char) : CodeSet := range c.toNat c.toNat

/-- What belongs to one of the sets. -/
def unions (sets : List CodeSet) : CodeSet := sets.foldl union empty

/-- The ranges between paired borders, each with its last code point. -/
def pairs : List Nat → List (Nat × Nat)
  | low :: high :: rest => (low, high - 1) :: pairs rest
  | [low] => [(low, lastCode)]
  | [] => []

/-- The ranges of the set in increasing order. -/
def ranges (s : CodeSet) : List (Nat × Nat) := pairs s.borders.toList

/-- Whether the set has no characters. -/
def isEmpty (s : CodeSet) : Bool := s.borders.isEmpty

/-! ### Sets written as text -/

/-- The value of a hexadecimal digit, in either case. -/
def hexValue (c : Char) : Nat :=
  if c.isDigit then c.toNat - '0'.toNat
  else if c.isLower then c.toNat - 'a'.toNat + 10
  else c.toNat - 'A'.toNat + 10

/-- The number written in hexadecimal digits. -/
def hexNumber (digits : String) : Nat := digits.foldl (fun n c => n * 16 + hexValue c) 0

/-- The words of a text that are parted by blanks and line breaks. -/
def words (text : String) : List String :=
  ((text.map fun c => if c.isWhitespace then ' ' else c).splitOn " ").filter (· ≠ "")

/-- The borders of a code point or a range. -/
def bordersOfWord (word : String) : List Nat :=
  match word.splitOn "-" with
  | [low, high] => [hexNumber low, hexNumber high + 1]
  | _ => [hexNumber word, hexNumber word + 1]

/-- The set written as increasing code points and ranges in hexadecimal, such as `30-39 5F`. -/
def ofText (text : String) : CodeSet := ⟨((words text).flatMap bordersOfWord).toArray⟩

end CodeSet

end TreePattern
