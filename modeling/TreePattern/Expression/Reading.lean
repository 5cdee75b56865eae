import TreePattern.Expression.ClassReading
import TreePattern.Unicode.Property

/-!
# Reading expressions

An expression is read piece by piece: a character, an escape or a class; a repetition, which takes
the piece before it; a bar, which starts another branch; a parenthesis; or a change of settings.
Groups that are open are kept on a stack with what stood before them. An expression that nests
deeper than the limit is refused.

* `Term.ofText?`: the term of an expression.
-/

namespace TreePattern.Expression

/-- A piece of an expression. -/
inductive Piece where
  /-- A term by itself. -/
  | atom (t : Term)
  /-- A repetition of the term before it. -/
  | times (low : Nat) (high : Option Nat)
  /-- The start of another branch. -/
  | bar
  /-- The start of a group. -/
  | enter (captures : Bool) (changes : List (Flag × Bool)) (name : Option (List Char))
  /-- The end of a group. -/
  | leave

/-- The setting that a letter stands for. -/
def flagOf? : Char → Option Flag
  | 'i' => some .ignoreCase
  | 'm' => some .multiLine
  | 's' => some .dotAll
  | 'U' => some .swapGreed
  | 'u' => some .unicode
  | 'R' => some .carriageReturn
  | 'x' => some .spaced
  | _ => none

/-- Changes of settings up to a closing parenthesis or a colon, which is given back with what stands
behind it. A letter switches its setting on, or off when it stands behind the hyphen; no letter may
stand twice, and the hyphen may neither stand twice nor last. -/
def readChanges? (changes : List (Flag × Bool)) (negated hyphenLast : Bool) :
    List Char → Option (List (Flag × Bool) × Char × List Char)
  | [] => none
  | c :: rest =>
    if c == ':' || c == ')' then
      if hyphenLast then none else some (changes, c, rest)
    else if c == '-' then
      if negated then none else readChanges? changes true true rest
    else
      match flagOf? c with
      | none => none
      | some flag =>
        if (changes.lookup flag).isSome then none
        else readChanges? (changes ++ [(flag, !negated)]) negated false rest

/-- Whether a character may stand in the name of a group, and, for its first character, start it. -/
def isGroupNameChar (first : Bool) (c : Char) : Bool :=
  c == '_' || Unicode.alphabetic.has c ||
    (!first && (c == '.' || c == '[' || c == ']' || Unicode.number.has c))

/-- The name of a group up to the angle bracket that ends it. -/
def readGroupName? (input : List Char) : Option (List Char × List Char) :=
  let name := input.takeWhile (· != '>')
  match name, input.dropWhile (· != '>') with
  | c :: cs, '>' :: rest =>
    if isGroupNameChar true c && cs.all (isGroupNameChar false) then some (name, rest) else none
  | _, _ => none

/-- The start of a group or a change of settings: what stands behind the parenthesis. Looking around
is not offered. -/
def readGroup? (spaced : Bool) (input : List Char) : Option (Piece × List Char) :=
  match skipBlanks spaced input with
  | '?' :: '=' :: _ | '?' :: '!' :: _ => none
  | '?' :: '<' :: '=' :: _ | '?' :: '<' :: '!' :: _ => none
  | '?' :: 'P' :: '<' :: rest | '?' :: '<' :: rest =>
    (readGroupName? rest).map fun (name, rest) => (.enter true [] (some name), rest)
  | '?' :: rest =>
    match readChanges? [] false false rest with
    | some (changes, ':', rest) => some (.enter false changes none, rest)
    | some ([], _, _) => none
    | some (changes, _, rest) => some (.atom (.settings changes), rest)
    | none => none
  | rest => some (.enter true [] none, rest)

/-- What is left behind a question mark that makes a repetition lazy. -/
def dropLazy : List Char → List Char
  | '?' :: rest => rest
  | rest => rest

/-- The term that an escape stands for. -/
def Escape.term : Escape → Term
  | .literal l => .literal l
  | .mark m => .mark m
  | .property name negated => .property name negated
  | .shorthand kind negated => .shorthand kind negated

/-- The piece at the head of an expression. -/
def readPiece? (spaced : Bool) (input : List Char) : Option (Piece × List Char) :=
  match input with
  | [] => none
  | c :: rest =>
    match c with
    | '(' => readGroup? spaced rest
    | ')' => some (.leave, rest)
    | '|' => some (.bar, rest)
    | '[' => (readClass? spaced rest).map fun (t, rest) => (.atom t, rest)
    | '?' => some (.times 0 (some 1), dropLazy rest)
    | '*' => some (.times 0 none, dropLazy rest)
    | '+' => some (.times 1 none, dropLazy rest)
    | '\x7b' =>
      (readCounts? spaced rest).map fun ((low, high), rest) =>
        (.times low high, dropLazy (skipBlanks spaced rest))
    | '\\' => (readEscape? spaced rest).map fun (e, rest) => (.atom e.term, rest)
    | '.' => some (.atom .dot, rest)
    | '^' => some (.atom (.mark .lineStart), rest)
    | '$' => some (.atom (.mark .lineEnd), rest)
    | c => some (.atom (.literal ⟨c, false⟩), rest)

/-! ### Groups and branches -/

/-- The branches of a group that is being read. -/
structure Branches where
  /-- The branches that are complete, the last one first. -/
  complete : List Term
  /-- The terms of the branch being read, the last one first. -/
  items : List Term

namespace Branches

/-- No branch yet. -/
def none : Branches := ⟨[], []⟩

/-- The branch being read, as one term. -/
def branch (b : Branches) : Term :=
  match b.items with
  | [] => .empty
  | [t] => t
  | items => .concat items.reverse

/-- All branches, as one term. -/
def term (b : Branches) : Term :=
  match b.complete with
  | [] => b.branch
  | complete => .alternation (b.branch :: complete).reverse

/-- Adds a term to the branch being read. -/
def add (b : Branches) (t : Term) : Branches := { b with items := t :: b.items }

/-- Starts another branch. -/
def next (b : Branches) : Branches := ⟨b.branch :: b.complete, []⟩

/-- Repeats the term that was added last; settings cannot be repeated. -/
def repeatLast? (b : Branches) (low : Nat) (high : Option Nat) : Option Branches :=
  match b.items with
  | [] | .settings _ :: _ => Option.none
  | t :: items => some { b with items := .repetition low high t :: items }

end Branches

/-- A group that is open, with what stood before it. -/
structure OpenGroup where
  /-- The branches around the group. -/
  around : Branches
  /-- Whether the group captures. -/
  captures : Bool
  /-- The settings it begins with. -/
  changes : List (Flag × Bool)
  /-- Whether blanks were passed over around the group. -/
  spaced : Bool

/-- An expression in the course of being read. -/
structure Reading where
  /-- The branches of the innermost open group. -/
  branches : Branches
  /-- The open groups, the innermost first. -/
  groups : List OpenGroup
  /-- Whether blanks are passed over. -/
  spaced : Bool
  /-- The names of groups so far. -/
  names : List (List Char)

namespace Reading

/-- Nothing read yet. -/
def start : Reading := ⟨.none, [], false, []⟩

/-- Whether blanks are passed over after a change of settings. -/
def spacedAfter (r : Reading) (changes : List (Flag × Bool)) : Bool :=
  (changes.lookup .spaced).getD r.spaced

/-- Takes one more piece. -/
def take? (r : Reading) : Piece → Option Reading
  | .atom (.settings changes) =>
    some { r with
      branches := r.branches.add (.settings changes)
      spaced := r.spacedAfter changes }
  | .atom t => some { r with branches := r.branches.add t }
  | .times low high => do
    let branches ← r.branches.repeatLast? low high
    some { r with branches }
  | .bar => some { r with branches := r.branches.next }
  | .enter captures changes name =>
    let group := ⟨r.branches, captures, changes, r.spaced⟩
    let names := name.toList ++ r.names
    if name.any r.names.contains then none
    else some ⟨.none, group :: r.groups, r.spacedAfter changes, names⟩
  | .leave =>
    match r.groups with
    | [] => none
    | group :: groups =>
      let t := Term.group group.captures group.changes r.branches.term
      some { r with branches := group.around.add t, groups, spaced := group.spaced }

/-- The term, when no group is left open. -/
def finish? (r : Reading) : Option Term := if r.groups.isEmpty then some r.branches.term else none

/-- Reads on to the end. Every round reads at least one character. -/
def readRounds? : Nat → Reading → List Char → Option Term
  | 0, _, _ => none
  | rounds + 1, r, input =>
    match skipBlanks r.spaced input with
    | [] => r.finish?
    | input => do
      let (piece, rest) ← readPiece? r.spaced input
      readRounds? rounds (← r.take? piece) rest

end Reading

/-- The term of an expression, if it is one and does not nest too deep. -/
def Term.ofText? (text : String) : Option Term := do
  let input := text.toList
  let t ← Reading.start.readRounds? (input.length + 1) input
  if t.nesting ≤ nestingLimit then some t else none

end TreePattern.Expression
