import TreePattern.Unicode.CodeSet

/-!
# Sets of characters as bytes

A character is written as one to four bytes: a leading byte, and behind it digits of base 64. The
characters of a range are those whose bytes lie in one of several sequences of byte ranges, and
these sequences are what a machine that reads bytes has to know of a set. Read from the front they
part where they begin to differ and meet again where they end alike, so the machine has one point
for each of the ways in which they can go on.

* `CodeSet.byteRanges`: the sequences of byte ranges of a set, in increasing order.
* `CodeSet.points`: the points of the machine that reads them from the front.
-/

namespace TreePattern

namespace CodeSet

/-- The bytes from a first to a last one. -/
abbrev ByteRange : Type := Nat × Nat

/-- The sequences for the numbers from `low` to `high` when they are written as a leading byte,
which counts from `base`, and a number of digits. The leading bytes whose digits are free form one
range; the first and the last leading byte stand apart where their digits are not free. -/
def spell (base : Nat) : Nat → Nat → Nat → List (List ByteRange)
  | 0, low, high => [[(base + low, base + high)]]
  | digits + 1, low, high =>
    let unit := 64 ^ (digits + 1)
    let (a, b) := (low / unit, high / unit)
    let under (lead low high : Nat) : List (List ByteRange) :=
      (spell 0x80 digits low high).map ((base + lead, base + lead) :: ·)
    if a == b then under a (low % unit) (high % unit)
    else
      let freeFirst := low % unit == 0
      let freeLast := high % unit == unit - 1
      let first := if freeFirst then a else a + 1
      let behind := if freeLast then b + 1 else b
      let middle := (base + first, base + (behind - 1)) :: List.replicate (digits + 1) (0x80, 0xBF)
      (if freeFirst then [] else under a (low % unit) (unit - 1)) ++
        (if first < behind then [middle] else []) ++
        (if freeLast then [] else under b 0 (high % unit))

/-- The code points that are written alike: the first and the last one, where their leading bytes
count from, and the number of digits. -/
def encodingBlocks : List (Nat × Nat × Nat × Nat) := [
  (0, 0x7F, 0, 0),
  (0x80, 0x7FF, 0xC0, 1),
  (0x800, 0xD7FF, 0xE0, 2),
  (0xE000, 0xFFFF, 0xE0, 2),
  (0x10000, lastCode, 0xF0, 3)]

/-- The sequences of byte ranges of the characters in a range. -/
def byteRangesOfRange (low high : Nat) : List (List ByteRange) :=
  encodingBlocks.flatMap fun (first, last, base, digits) =>
    let (low, high) := (max low first, min high last)
    if low ≤ high then spell base digits low high else []

/-- The sequences of byte ranges of the characters in the set. -/
def byteRanges (s : CodeSet) : List (List ByteRange) :=
  s.ranges.flatMap fun (low, high) => byteRangesOfRange low high

/-! ### Sequences from the front -/

/-- A point of a machine that reads bytes: the ranges it tells apart, the last one first, each with
the number of the point behind it. The end has the number 0, and the points are counted from 1. -/
abbrev Point : Type := List (ByteRange × Nat)

/-- The number of a point among those there are. A point that is not there yet is added. -/
def numberOf (point : Point) (made : Array Point) : Nat × Array Point :=
  match made.idxOf? point with
  | some i => (i + 1, made)
  | none => (made.size + 1, made.push point)

/-- The sequences by what they begin with. Those that begin alike stand together. -/
def byHead : List (List ByteRange) → List (ByteRange × List (List ByteRange))
  | [] => []
  | [] :: rest => byHead rest
  | (head :: tail) :: rest =>
    match byHead rest with
    | [] => [(head, [tail])]
    | (next, tails) :: others =>
      if head == next then (head, tail :: tails) :: others
      else (head, [tail]) :: (next, tails) :: others

/-- The number of the point from which sequences of at most this length are read, and the points
with all that it takes to read them. Where sequences go on alike, they share their points. -/
def share : Nat → List (List ByteRange) → Array Point → Nat × Array Point
  | 0, _, made => (0, made)
  | length + 1, sequences, made =>
    match byHead sequences with
    | [] => (0, made)
    | groups =>
      let (point, made) := groups.foldl (fun (point, made) (head, tails) =>
        let (behind, made) := share length tails made
        ((head, behind) :: point, made)) ([], made)
      numberOf point made

/-- The points of the machine that reads sequences from the front. -/
def points (sequences : List (List ByteRange)) : Array Point := (share 4 sequences #[]).2

/-! ### Sequences from the back -/

/-- How many items two lists have in common at their heads. -/
def commonLength : List ByteRange → List ByteRange → Nat
  | x :: xs, y :: ys => if x == y then commonLength xs ys + 1 else 0
  | _, _ => 0

/-- How many beginnings the sequences have, equal ones behind each other counted once. -/
def countBeginnings (previous : List ByteRange) : List (List ByteRange) → Nat
  | [] => 0
  | s :: rest => s.length - commonLength previous s + countBeginnings s rest

end CodeSet

end TreePattern
